import Confetti.Protocol.Deployment
import Confetti.Properties.RateCurve

/-! The rates of a reserve can be computed under every accepted reserve factor that is a
percentage. The configuration accepts larger ones, and those block the reserve. -/
namespace Confetti
open Outcome HalfUp

namespace InterestRate

/-- Strategies with a kink inside the curve and no single rate above a ray. -/
structure Moderate (strategy : InterestRate) : Prop where
  optimal_pos : 0 < strategy.OPTIMAL_UTILIZATION_RATE
  optimal_lt : strategy.OPTIMAL_UTILIZATION_RATE < RAY
  base_le : strategy.baseVariableBorrowRate ≤ RAY
  slope1_le : strategy.variableRateSlope1 ≤ RAY
  slope2_le : strategy.variableRateSlope2 ≤ RAY

variable {self : InterestRate} {u cash debt rate factor : Nat}

theorem utilizationRate_of_small (hcash : cash < 2 ^ 102) (hdebt : debt < 2 ^ 100) :
    utilizationRate cash debt = .ok (halfUp (debt * RAY) (cash + debt)) := by
  unfold utilizationRate
  by_cases hzero : debt = 0
  · rw [if_pos hzero, hzero, Nat.zero_mul, halfUp_zero]
    rfl
  · simp only [if_neg hzero, bind_eq_ok, Uint256.add_eq_ok, rayDiv_eq_ok]
    have hproduct : debt * RAY ≤ 2 ^ 100 * RAY := Nat.mul_le_mul_right RAY hdebt.le
    have hroom : 2 ^ 100 * RAY + 2 ^ 103 ≤ Uint256.max := by decide
    exact ⟨_, ⟨by omega, rfl⟩, by omega, by omega, rfl⟩

theorem weighted_le (hslope : self.variableRateSlope1 ≤ RAY) (u : Nat) :
    halfUp (u * self.variableRateSlope1) RAY ≤ u := by
  calc
    halfUp (u * self.variableRateSlope1) RAY ≤ halfUp (u * RAY) RAY :=
      halfUp_mono (Nat.mul_le_mul_left u hslope) RAY
    _ = u := halfUp_mul_self RAY_pos u

theorem rateAt_le_three_rays (hself : self.Moderate) (hu : u ≤ RAY) : self.rateAt u ≤ 3 * RAY := by
  have hbase := hself.base_le
  have hslope1 := hself.slope1_le
  have hslope2 := hself.slope2_le
  rcases Nat.lt_or_ge self.OPTIMAL_UTILIZATION_RATE u with hbeyond | hwithin
  · have := rateAt_le_of_gt hself.optimal_lt hu hbeyond
    omega
  · have hslope : halfUp (halfUp (u * self.variableRateSlope1) RAY * RAY)
        self.OPTIMAL_UTILIZATION_RATE ≤ RAY := by
      calc
        _ ≤ halfUp (RAY * self.OPTIMAL_UTILIZATION_RATE) self.OPTIMAL_UTILIZATION_RATE := by
          apply halfUp_mono
          rw [Nat.mul_comm RAY]
          exact Nat.mul_le_mul_right RAY ((weighted_le hslope1 u).trans hwithin)
        _ = RAY := halfUp_mul_self hself.optimal_pos RAY
    rw [rateAt_of_le hwithin]
    omega

theorem variableBorrowRate_of_le (hself : self.Moderate) (hu : u ≤ RAY) :
    self.variableBorrowRate u = .ok (self.rateAt u) := by
  have hrate := rateAt_le_three_rays hself hu
  have hexcess := self.excess_add_optimal
  have hopt := hself.optimal_pos
  have hray := hself.optimal_lt
  have hroom : RAY * RAY + 3 * RAY ≤ Uint256.max := by decide
  have hhalf : HALF_RAY ≤ RAY := by decide
  unfold variableBorrowRate
  rcases Nat.lt_or_ge self.OPTIMAL_UTILIZATION_RATE u with hbeyond | hwithin
  · rw [rateAt_of_gt hbeyond] at hrate ⊢
    simp only [if_pos hbeyond, bind_eq_ok, Uint256.sub_eq_ok, rayDiv_eq_ok, Uint256.add_eq_ok,
      rayMul_eq_ok]
    have hexcessProduct : (u - self.OPTIMAL_UTILIZATION_RATE) * RAY ≤ RAY * RAY :=
      Nat.mul_le_mul_right RAY (by omega)
    have hratio := self.excessRatio_le hray hu
    have hslopeProduct : self.variableRateSlope2 *
        halfUp ((u - self.OPTIMAL_UTILIZATION_RATE) * RAY) self.EXCESS_UTILIZATION_RATE ≤
          RAY * RAY := Nat.mul_le_mul hself.slope2_le hratio
    exact ⟨_, ⟨hbeyond.le, rfl⟩, _, ⟨by omega, by omega, rfl⟩, _, ⟨by omega, rfl⟩, _,
      ⟨by omega, rfl⟩, by omega, rfl⟩
  · rw [rateAt_of_le hwithin] at hrate ⊢
    simp only [if_neg (Nat.not_lt.mpr hwithin), bind_eq_ok, rayDiv_eq_ok, Uint256.add_eq_ok,
      rayMul_eq_ok]
    have hslopeProduct : u * self.variableRateSlope1 ≤ RAY * RAY :=
      Nat.mul_le_mul hu hself.slope1_le
    have hweighted : halfUp (u * self.variableRateSlope1) RAY * RAY ≤ RAY * RAY :=
      Nat.mul_le_mul_right RAY ((weighted_le hself.slope1_le u).trans hu)
    exact ⟨_, ⟨by omega, rfl⟩, _, ⟨by omega, by omega, rfl⟩, by omega, rfl⟩

/-- Averaging one rate over one debt loses less than a ray. -/
theorem getOverallBorrowRate_of_small (hdebt : debt < 2 ^ 100) (hrate : rate ≤ 3 * RAY) :
    ∃ overall, getOverallBorrowRate debt rate = .ok overall ∧ overall ≤ 4 * RAY := by
  unfold getOverallBorrowRate
  by_cases hzero : debt = 0
  · rw [if_pos hzero]
    exact ⟨0, rfl, Nat.zero_le _⟩
  · simp only [if_neg hzero]
    have hpos : 0 < debt * WAD_RAY_RATIO := Nat.mul_pos (by omega) (by decide)
    have hinRay : debt * WAD_RAY_RATIO ≤ 2 ^ 100 * WAD_RAY_RATIO :=
      Nat.mul_le_mul_right _ hdebt.le
    have hproduct : debt * WAD_RAY_RATIO * rate ≤ debt * WAD_RAY_RATIO * (3 * RAY) :=
      Nat.mul_le_mul_left _ hrate
    have hproductMax : debt * WAD_RAY_RATIO * (3 * RAY) ≤
        2 ^ 100 * WAD_RAY_RATIO * (3 * RAY) := Nat.mul_le_mul_right _ hinRay
    have hroom : 2 ^ 100 * WAD_RAY_RATIO * (3 * RAY) + RAY + 2 ^ 100 * WAD_RAY_RATIO ≤
        Uint256.max := by decide
    have hhalf : HALF_RAY = RAY / 2 := rfl
    have hweighted := halfUp_mul_le (debt * WAD_RAY_RATIO * rate) RAY
    refine ⟨halfUp (halfUp (debt * WAD_RAY_RATIO * rate) RAY * RAY) (debt * WAD_RAY_RATIO), ?_, ?_⟩
    · simp only [bind_eq_ok, wadToRay_eq_ok, rayMul_eq_ok, rayDiv_eq_ok]
      exact ⟨_, ⟨by omega, rfl⟩, _, ⟨by omega, rfl⟩, _, ⟨by omega, rfl⟩, by omega, by omega, rfl⟩
    · rw [halfUp_le_iff hpos]
      have hone : RAY ≤ debt * WAD_RAY_RATIO * RAY := Nat.le_mul_of_pos_left RAY hpos
      have hsplit : (4 * RAY + 1) * (debt * WAD_RAY_RATIO) =
          debt * WAD_RAY_RATIO * (3 * RAY) + debt * WAD_RAY_RATIO * RAY +
            debt * WAD_RAY_RATIO := by ring
      omega

/-- Nothing but the reserve factor can keep the rates from being computed. -/
theorem calculateInterestRates_of_small (hself : self.Moderate) (hcash : cash < 2 ^ 102)
    (hdebt : debt < 2 ^ 100) (hfactor : factor ≤ PERCENTAGE_FACTOR) :
    ∃ rates, self.calculateInterestRates cash debt factor = .ok rates ∧
      rates.1 ≤ Uint128.max ∧ rates.2 ≤ Uint128.max := by
  have hu := utilization_le_RAY cash debt
  have hrate := rateAt_le_three_rays hself hu
  obtain ⟨overall, hoverall, hbound⟩ := getOverallBorrowRate_of_small hdebt hrate
  have hroom : 4 * RAY * RAY + RAY ≤ Uint256.max := by decide
  have hroomPercent : 4 * RAY * PERCENTAGE_FACTOR + PERCENTAGE_FACTOR ≤ Uint256.max := by decide
  have hnarrow : 4 * RAY ≤ Uint128.max := by decide
  have hnarrow' : 3 * RAY ≤ Uint128.max := by decide
  have hhalf : HALF_RAY ≤ RAY := by decide
  have hearnedProduct : overall * halfUp (debt * RAY) (cash + debt) ≤ 4 * RAY * RAY :=
    Nat.mul_le_mul hbound hu
  have hearned : halfUp (overall * halfUp (debt * RAY) (cash + debt)) RAY ≤ 4 * RAY := by
    calc
      _ ≤ halfUp (4 * RAY * RAY) RAY := halfUp_mono hearnedProduct RAY
      _ = 4 * RAY := halfUp_mul_self RAY_pos _
  have hshareProduct : halfUp (overall * halfUp (debt * RAY) (cash + debt)) RAY *
      (PERCENTAGE_FACTOR - factor) ≤ 4 * RAY * PERCENTAGE_FACTOR :=
    Nat.mul_le_mul hearned (Nat.sub_le _ _)
  have hshare : halfUp (halfUp (overall * halfUp (debt * RAY) (cash + debt)) RAY *
      (PERCENTAGE_FACTOR - factor)) PERCENTAGE_FACTOR ≤ 4 * RAY := by
    calc
      _ ≤ halfUp (4 * RAY * PERCENTAGE_FACTOR) PERCENTAGE_FACTOR := halfUp_mono hshareProduct _
      _ = 4 * RAY := halfUp_mul_self (by decide) _
  refine ⟨(halfUp (halfUp (overall * halfUp (debt * RAY) (cash + debt)) RAY *
      (PERCENTAGE_FACTOR - factor)) PERCENTAGE_FACTOR,
    self.rateAt (halfUp (debt * RAY) (cash + debt))), ?_, hshare.trans hnarrow,
    hrate.trans hnarrow'⟩
  have hfits : overall * halfUp (debt * RAY) (cash + debt) + HALF_RAY ≤ Uint256.max := by omega
  have hfitsPercent : halfUp (overall * halfUp (debt * RAY) (cash + debt)) RAY *
      (PERCENTAGE_FACTOR - factor) + PERCENTAGE_FACTOR / 2 ≤ Uint256.max := by omega
  simp only [calculateInterestRates, bind_eq_ok, rayMul_eq_ok, Uint256.sub_eq_ok,
    percentMul_eq_ok, pure_eq_ok]
  exact ⟨_, utilizationRate_of_small hcash hdebt, _, variableBorrowRate_of_le hself hu, _,
    hoverall, _, ⟨hfits, rfl⟩, _, ⟨hfactor, rfl⟩, _, ⟨hfitsPercent, rfl⟩, rfl⟩

theorem calculateInterestRatesAfter_iff {added taken : Nat} (hself : self.Moderate)
    (hcash : cash < 2 ^ 100) (hadded : added < 2 ^ 100) (htaken : taken ≤ cash + added)
    (hdebt : debt < 2 ^ 100) :
    (∃ rates, self.calculateInterestRatesAfter cash added taken debt factor = .ok rates ∧
      rates.1 ≤ Uint128.max ∧ rates.2 ≤ Uint128.max) ↔ factor ≤ PERCENTAGE_FACTOR := by
  have hroom : 2 ^ 101 ≤ Uint256.max := by decide
  simp only [calculateInterestRatesAfter, bind_eq_ok, Uint256.add_eq_ok, Uint256.sub_eq_ok]
  constructor
  · intro h
    obtain ⟨rates, ⟨_, ⟨-, rfl⟩, _, ⟨-, rfl⟩, hrates⟩, -, -⟩ := h
    obtain ⟨_, _, -, -, hfactor, -⟩ := calculateInterestRates_spec hrates
    exact hfactor
  · intro hfactor
    have havailable : cash + added - taken < 2 ^ 102 := by omega
    obtain ⟨rates, hrates, hfits⟩ := calculateInterestRates_of_small hself havailable hdebt hfactor
    exact ⟨rates, ⟨_, ⟨by omega, rfl⟩, _, ⟨htaken, rfl⟩, hrates⟩, hfits⟩

end InterestRate

open InterestRate

/-- Under an accepted reserve factor the rates are computed and fit their fields, and the rates
of every reserve that carries it can be updated, exactly if the factor is a percentage. -/
theorem rates_available_iff_percentage {self : InterestRate} (hself : self.Moderate)
    {config config' : ReserveConfigurationMap} {factor : Nat}
    (haccepted : config.setReserveFactor factor = .ok config') (cash added taken debt : Nat)
    (hcash : cash < 2 ^ 100) (hadded : added < 2 ^ 100) (htaken : taken ≤ cash + added)
    (hdebt : debt < 2 ^ 100) :
    ((∃ rates, self.calculateInterestRatesAfter cash added taken debt config'.getReserveFactor =
        .ok rates ∧ rates.1 ≤ Uint128.max ∧ rates.2 ≤ Uint128.max) ↔
      factor ≤ PERCENTAGE_FACTOR) ∧
    ∀ s asset cToken debtAsset, (s.pool.reserves asset).configuration = config' →
      (s.pool.reserves asset).debtTokenAddress = .debtToken debtAsset →
      s.interestRates (s.pool.reserves asset).interestRateAddress = some self →
      (s.erc20 asset).balances cToken = cash →
      rayMul (s.debtTokens debtAsset).ledger.totalSupply
        (s.pool.reserves asset).variableBorrowIndex = .ok debt →
      ((∃ s', ReserveLogic.updateInterestRates s asset cToken added taken = .ok s') ↔
        factor ≤ PERCENTAGE_FACTOR) := by
  have hfactor := ReserveConfigurationMap.getReserveFactor_setReserveFactor haccepted
  have hrates : (∃ rates,
      self.calculateInterestRatesAfter cash added taken debt factor = .ok rates ∧
        rates.1 ≤ Uint128.max ∧ rates.2 ≤ Uint128.max) ↔ factor ≤ PERCENTAGE_FACTOR :=
    calculateInterestRatesAfter_iff hself hcash hadded htaken hdebt
  rw [hfactor]
  refine ⟨hrates, ?_⟩
  intro s asset cToken debtAsset hconfig hdebtToken hstrategy hbalance hvalue
  rw [← hrates]
  constructor
  · intro h
    obtain ⟨s', h⟩ := h
    obtain ⟨debtAsset', debt', interestRate, rates, hdebtToken', hvalue', hstrategy', hrates', hl,
      hv, -⟩ := ReserveLogic.updateInterestRates_eq_ok.mp h
    rw [hdebtToken] at hdebtToken'
    obtain rfl := Address.debtToken.inj hdebtToken'
    rw [hvalue] at hvalue'
    obtain rfl := Except.ok.inj hvalue'
    rw [hstrategy] at hstrategy'
    obtain rfl := Option.some.inj hstrategy'
    rw [hbalance, hconfig, hfactor] at hrates'
    exact ⟨rates, hrates', hl, hv⟩
  · intro h
    obtain ⟨rates, h, hl, hv⟩ := h
    refine ⟨_, ReserveLogic.updateInterestRates_eq_ok.mpr
      ⟨debtAsset, debt, self, rates, hdebtToken, hvalue, hstrategy, ?_, hl, hv, rfl⟩⟩
    rw [hbalance, hconfig, hfactor]
    exact h

theorem sampleStrategy_moderate : sampleStrategy.Moderate :=
  ⟨by decide, by decide, by decide, by decide, by decide⟩

/-- A tenth for the treasury, on a half lent reserve. -/
theorem rates_available_sample :
    ∃ config' rates, ReserveConfigurationMap.setReserveFactor ⟨0⟩ 1000 = .ok config' ∧
      sampleStrategy.calculateInterestRatesAfter 500 100 50 500 config'.getReserveFactor =
        .ok rates ∧ rates.1 ≤ Uint128.max ∧ rates.2 ≤ Uint128.max := by
  have hcheck : passes (ReserveConfigurationMap.setReserveFactor ⟨0⟩ 1000) (fun _ => true) =
    true := by decide +kernel
  obtain ⟨config', haccepted, -⟩ := exists_of_passes hcheck
  obtain ⟨rates, h⟩ := (rates_available_iff_percentage sampleStrategy_moderate haccepted
    500 100 50 500 (by decide) (by decide) (by decide) (by decide)).1.mpr (by decide)
  exact ⟨config', rates, haccepted, h⟩

/-- A factor of more than everything is accepted, and no rate can be computed any more: in a
market that lends, neither deposits nor repayments go through. -/
theorem oversized_factor_blocks_reserve :
    (∃ config', ReserveConfigurationMap.setReserveFactor ⟨0⟩ 10001 = .ok config' ∧
      fault (sampleStrategy.calculateInterestRatesAfter 500 100 50 500 config'.getReserveFactor) =
        some .panic) ∧
    ∃ s, LendPoolConfigurator.setReserveFactor sampleLent [sampleMarket.asset] 10001 = .ok s ∧
      fault (LendPool.deposit s (.account 1) sampleMarket.asset 1000 (.account 1)) =
        some .panic ∧
      fault (LendPool.repay s (.account 2) sampleMarket.nftAsset 7 1000) = some .panic := by
  have hcheck : passes (ReserveConfigurationMap.setReserveFactor ⟨0⟩ 10001) (fun config' =>
    fault (sampleStrategy.calculateInterestRatesAfter 500 100 50 500 config'.getReserveFactor) =
      some .panic) = true := by decide +kernel
  have hpool : passes (LendPoolConfigurator.setReserveFactor sampleLent [sampleMarket.asset] 10001)
    (fun s =>
      fault (LendPool.deposit s (.account 1) sampleMarket.asset 1000 (.account 1)) =
          some .panic ∧
        fault (LendPool.repay s (.account 2) sampleMarket.nftAsset 7 1000) = some .panic) =
      true := by decide +kernel
  obtain ⟨config', haccepted, hfault⟩ := exists_of_passes hcheck
  obtain ⟨s, hset, hfaults⟩ := exists_of_passes hpool
  exact ⟨⟨config', haccepted, of_decide_eq_true hfault⟩, s, hset, of_decide_eq_true hfaults⟩

end Confetti
