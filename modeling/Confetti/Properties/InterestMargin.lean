import Confetti.Logic.ReserveLogic
import Confetti.Protocol.Deployment
import Mathlib.Data.Nat.Cast.Order.Field

/-! What an accrual credits against what it charges. Depositors earn simple interest at a
rate that follows the utilization, borrowers pay a truncated binomial at a truncated rate
per second, the treasury takes a percentage, and all of it is rounded. -/
namespace Confetti
open Outcome TransitionSystem HalfUp ReserveLogic InterestRate

/-- The part of the interest that a reserve factor leaves to depositors. -/
def depositorShare (reserveFactor : Nat) : ℚ :=
  ((PERCENTAGE_FACTOR - reserveFactor : Nat) : ℚ) / PERCENTAGE_FACTOR

/-! ### The rates -/

section Rates

variable {interestRate : InterestRate} {cash debt factor rate overall utilization : Nat}
  {rates : Nat × Nat}

theorem depositorShare_nonneg (factor : Nat) : 0 ≤ depositorShare factor := by
  unfold depositorShare
  positivity

theorem depositorShare_le_one (factor : Nat) : depositorShare factor ≤ 1 := by
  unfold depositorShare
  apply div_le_one_of_le₀
  · exact_mod_cast Nat.sub_le _ _
  · positivity

theorem RAY_pos_rat : (0 : ℚ) < RAY := by exact_mod_cast RAY_pos

theorem RAY_eq_wads : (RAY : ℚ) = WAD * WAD_RAY_RATIO := by
  norm_num [RAY, WAD, WAD_RAY_RATIO]

/-- Weighting the rate by the debt costs at most half a wad over the whole debt. -/
theorem overallRate_mul_le (hdebt : 0 < debt)
    (h : getOverallBorrowRate debt rate = .ok overall) :
    (overall : ℚ) * debt ≤ rate * debt + WAD / 2 + debt / 2 := by
  simp only [getOverallBorrowRate, if_neg (Nat.ne_of_gt hdebt), bind_eq_ok, wadToRay_eq_ok,
    rayMul_eq_ok, rayDiv_eq_ok] at h
  obtain ⟨_, ⟨-, rfl⟩, weighted, ⟨-, hweighted⟩, _, ⟨-, rfl⟩, -, -, rfl⟩ := h
  have hdebt' : (0 : ℚ) < debt := by exact_mod_cast hdebt
  have hratio : (0 : ℚ) < WAD_RAY_RATIO := by norm_num [ WAD_RAY_RATIO]
  have hwad : (0 : ℚ) < WAD := by norm_num [WAD]
  have hproduct := halfUp_le_add_half (debt * WAD_RAY_RATIO * rate) RAY_pos
  have hquotient := halfUp_le_add_half (weighted * RAY) (d := debt * WAD_RAY_RATIO)
    (Nat.mul_pos hdebt (by decide))
  rw [hweighted] at hproduct
  push_cast at hproduct hquotient
  calc
    _ ≤ ((weighted : ℚ) * RAY / (debt * WAD_RAY_RATIO) + 1 / 2) * debt := by gcongr
    _ = weighted * WAD + debt / 2 := by
      rw [RAY_eq_wads]
      field_simp
    _ ≤ ((debt : ℚ) * WAD_RAY_RATIO * rate / RAY + 1 / 2) * WAD + debt / 2 := by gcongr
    _ = rate * debt + WAD / 2 + debt / 2 := by
      rw [RAY_eq_wads]
      field_simp

theorem overallRate_le (hdebt : 0 < debt) (h : getOverallBorrowRate debt rate = .ok overall) :
    (overall : ℚ) ≤ rate + WAD / 2 + 1 / 2 := by
  have hdebt' : (1 : ℚ) ≤ debt := by exact_mod_cast hdebt
  have hwad : (0 : ℚ) ≤ WAD / 2 := by positivity
  have hweighted := overallRate_mul_le hdebt h
  have hspread : (WAD : ℚ) / 2 ≤ WAD / 2 * debt := le_mul_of_one_le_right hwad hdebt'
  have hscaled : (overall : ℚ) * debt ≤ (rate + WAD / 2 + 1 / 2) * debt := by linarith
  exact le_of_mul_le_mul_right hscaled (by linarith)

theorem utilization_eq (hdebt : 0 < debt) (h : utilizationRate cash debt = .ok utilization) :
    utilization = halfUp (debt * RAY) (cash + debt) := by
  simp only [utilizationRate, if_neg (Nat.ne_of_gt hdebt), bind_eq_ok, Uint256.add_eq_ok,
    rayDiv_eq_ok] at h
  obtain ⟨_, ⟨-, rfl⟩, -, -, rfl⟩ := h
  rfl

theorem utilization_mul_le (hdebt : 0 < debt)
    (h : utilizationRate cash debt = .ok utilization) :
    (utilization : ℚ) * (cash + debt) ≤ debt * RAY + (cash + debt) / 2 := by
  have htotal : 0 < cash + debt := Nat.add_pos_right cash hdebt
  have htotal' : (0 : ℚ) < cash + debt := by exact_mod_cast htotal
  have hquotient := halfUp_le_add_half (debt * RAY) htotal
  rw [← utilization_eq hdebt h] at hquotient
  push_cast at hquotient
  calc
    (utilization : ℚ) * (cash + debt) ≤
        ((debt : ℚ) * RAY / (cash + debt) + 1 / 2) * (cash + debt) := by gcongr
    _ = debt * RAY + (cash + debt) / 2 := by field_simp

theorem utilization_le (hdebt : 0 < debt) (h : utilizationRate cash debt = .ok utilization) :
    utilization ≤ RAY := by
  have htotal : 0 < cash + debt := Nat.add_pos_right cash hdebt
  rw [utilization_eq hdebt h]
  calc
    halfUp (debt * RAY) (cash + debt) ≤ halfUp (RAY * (cash + debt)) (cash + debt) := by
      apply halfUp_mono
      rw [Nat.mul_comm]
      exact Nat.mul_le_mul_left RAY (Nat.le_add_left debt cash)
    _ = RAY := halfUp_mul_self htotal RAY

/-- What depositors earn per second and unit, before the two roundings that follow it. -/
theorem liquidityRate_le :
    (halfUp (halfUp (overall * utilization) RAY * (PERCENTAGE_FACTOR - factor))
        PERCENTAGE_FACTOR : ℚ) ≤
      depositorShare factor * ((overall : ℚ) * utilization / RAY + 1 / 2) + 1 / 2 := by
  have hearned := halfUp_le_add_half (overall * utilization) RAY_pos
  have hshare := halfUp_le_add_half
    (halfUp (overall * utilization) RAY * (PERCENTAGE_FACTOR - factor)) (d := PERCENTAGE_FACTOR)
    (by decide)
  push_cast at hearned
  have hscaled := mul_le_mul_of_nonneg_left hearned (depositorShare_nonneg factor)
  have hsplit : ((halfUp (overall * utilization) RAY * (PERCENTAGE_FACTOR - factor) : Nat) : ℚ) /
      PERCENTAGE_FACTOR = depositorShare factor * halfUp (overall * utilization) RAY := by
    unfold depositorShare
    push_cast
    ring
  linarith

theorem liquidityRate_mul_le (hdebt : 0 < debt) (hrate : rates.2 ≤ RAY)
    (h : interestRate.calculateInterestRates cash debt factor = .ok rates) :
    (rates.1 : ℚ) * (cash + debt) ≤
      depositorShare factor * (rates.2 * debt) + WAD / 2 + 5 / 2 * (cash + debt) := by
  obtain ⟨utilization, overall, hutilization, hoverall, -, hliquidity⟩ :=
    calculateInterestRates_spec h
  have hcash : (0 : ℚ) ≤ cash := Nat.cast_nonneg _
  have hdebt' : (0 : ℚ) < debt := by exact_mod_cast hdebt
  have hweighted := overallRate_mul_le hdebt hoverall
  have hused := utilization_mul_le hdebt hutilization
  have hbound := overallRate_le hdebt hoverall
  have hrate' : (rates.2 : ℚ) ≤ RAY := by exact_mod_cast hrate
  have htwo : (overall : ℚ) ≤ 2 * RAY := by
    have hwad : (WAD : ℚ) / 2 + 1 / 2 ≤ RAY := by norm_num [WAD, RAY]
    linarith
  have hearned : (overall : ℚ) * utilization / RAY * (cash + debt) ≤
      rates.2 * debt + WAD / 2 + debt / 2 + (cash + debt) := by
    calc
      (overall : ℚ) * utilization / RAY * (cash + debt) =
          overall / RAY * (utilization * (cash + debt)) := by ring
      _ ≤ overall / RAY * (debt * RAY + (cash + debt) / 2) := by
        gcongr
      _ = overall * debt + overall / RAY * ((cash + debt) / 2) := by
        field_simp [RAY_pos_rat.ne']
      _ ≤ overall * debt + 2 * ((cash + debt) / 2) := by
        gcongr
        rw [div_le_iff₀ RAY_pos_rat]
        exact htwo
      _ ≤ _ := by linarith
  have hshare := depositorShare_nonneg factor
  have hone := depositorShare_le_one factor
  rw [hliquidity]
  calc
    _ ≤ (depositorShare factor * ((overall : ℚ) * utilization / RAY + 1 / 2) + 1 / 2) *
        (cash + debt) := by
      gcongr
      exact liquidityRate_le
    _ = depositorShare factor * (overall * utilization / RAY * (cash + debt)) +
        depositorShare factor * ((cash + debt) / 2) + (cash + debt) / 2 := by ring
    _ ≤ depositorShare factor * (rates.2 * debt + WAD / 2 + debt / 2 + (cash + debt)) +
        depositorShare factor * ((cash + debt) / 2) + (cash + debt) / 2 := by gcongr
    _ = depositorShare factor * (rates.2 * debt) +
        depositorShare factor * (WAD / 2 + debt / 2 + (cash + debt) + (cash + debt) / 2) +
          (cash + debt) / 2 := by ring
    _ ≤ depositorShare factor * (rates.2 * debt) +
        1 * (WAD / 2 + debt / 2 + (cash + debt) + (cash + debt) / 2) + (cash + debt) / 2 := by
      gcongr
    _ ≤ _ := by linarith

theorem liquidityRate_le_two (hdebt : 0 < debt) (hrate : rates.2 ≤ RAY)
    (h : interestRate.calculateInterestRates cash debt factor = .ok rates) :
    (rates.1 : ℚ) ≤ 2 * RAY := by
  obtain ⟨utilization, overall, hutilization, hoverall, -, hliquidity⟩ :=
    calculateInterestRates_spec h
  have hbound := overallRate_le hdebt hoverall
  have hrate' : (rates.2 : ℚ) ≤ RAY := by exact_mod_cast hrate
  have hused : (utilization : ℚ) ≤ RAY := by exact_mod_cast utilization_le hdebt hutilization
  have hearned : (overall : ℚ) * utilization / RAY ≤ overall := by
    rw [div_le_iff₀ RAY_pos_rat]
    gcongr
  have hliquidity' : (rates.1 : ℚ) ≤
      depositorShare factor * ((overall : ℚ) * utilization / RAY + 1 / 2) + 1 / 2 := by
    rw [hliquidity]
    exact liquidityRate_le
  have hwhole : depositorShare factor * ((overall : ℚ) * utilization / RAY + 1 / 2) ≤
      1 * ((overall : ℚ) * utilization / RAY + 1 / 2) := by
    gcongr
    exact depositorShare_le_one factor
  have hsmall : (WAD : ℚ) / 2 + 3 / 2 ≤ RAY := by norm_num [WAD, RAY]
  linarith

end Rates

/-! ### The interest of a period -/

section Period

variable {rate last now factor scaled index period : Nat}

def overPeriod (rate period : Nat) : ℚ := (rate : ℚ) * period / (SECONDS_PER_YEAR * RAY)

theorem overPeriod_nonneg (rate period : Nat) : 0 ≤ overPeriod rate period := by
  unfold overPeriod
  positivity

theorem year_pos : (0 : ℚ) < SECONDS_PER_YEAR := by norm_num [SECONDS_PER_YEAR]

theorem overPeriod_le (hperiod : period ≤ SECONDS_PER_YEAR) :
    overPeriod rate period ≤ (rate : ℚ) / RAY := by
  have hperiod' : (period : ℚ) ≤ SECONDS_PER_YEAR := by exact_mod_cast hperiod
  unfold overPeriod
  rw [div_le_div_iff₀ (mul_pos year_pos RAY_pos_rat) RAY_pos_rat]
  calc
    (rate : ℚ) * period * RAY ≤ rate * SECONDS_PER_YEAR * RAY := by gcongr
    _ = rate * (SECONDS_PER_YEAR * RAY) := by ring

theorem linearInterest_le (h : calculateLinearInterest rate last now = .ok factor) :
    (factor : ℚ) / RAY ≤ 1 + overPeriod rate (now - last) := by
  obtain ⟨-, -, -, rfl⟩ := calculateLinearInterest_eq_ok.mp h
  have hquotient : ((rate * (now - last) / SECONDS_PER_YEAR : Nat) : ℚ) ≤
      ((rate * (now - last) : Nat) : ℚ) / SECONDS_PER_YEAR := Nat.cast_div_le
  unfold overPeriod
  rw [Nat.cast_mul] at hquotient
  rw [Nat.cast_add]
  rw [div_le_iff₀ RAY_pos_rat]
  have hcancel : (1 + (rate : ℚ) * ((now - last : Nat) : ℚ) / (SECONDS_PER_YEAR * RAY)) * RAY =
      RAY + rate * ((now - last : Nat) : ℚ) / SECONDS_PER_YEAR := by
    field_simp [RAY_pos_rat.ne']
  rw [hcancel]
  linarith

/-- Borrowers are charged at least simple interest, less one unit of a ray per second. -/
theorem le_compoundedInterest (h : calculateCompoundedInterest rate last now = .ok factor) :
    1 + overPeriod rate (now - last) - ((now - last : Nat) : ℚ) / RAY ≤ (factor : ℚ) / RAY := by
  obtain ⟨-, rest, rfl, -⟩ := compoundedInterest_spec h
  have hperSecond : (rate : ℚ) / SECONDS_PER_YEAR ≤
      ((rate / SECONDS_PER_YEAR : Nat) : ℚ) + 1 := by
    rw [div_le_iff₀ year_pos]
    have hlt := Nat.lt_div_mul_add (a := rate) (b := SECONDS_PER_YEAR) (by decide)
    have hle : rate ≤ (rate / SECONDS_PER_YEAR + 1) * SECONDS_PER_YEAR := by
      rw [Nat.add_mul, Nat.one_mul]
      exact hlt.le
    exact_mod_cast hle
  have hrest : (0 : ℚ) ≤ rest := Nat.cast_nonneg _
  have hcharged : (rate : ℚ) / SECONDS_PER_YEAR * ((now - last : Nat) : ℚ) ≤
      (((rate / SECONDS_PER_YEAR : Nat) : ℚ) + 1) * ((now - last : Nat) : ℚ) := by gcongr
  unfold overPeriod
  rw [le_div_iff₀ RAY_pos_rat, Nat.cast_add, Nat.cast_add, Nat.cast_mul]
  have hcancel : (1 + (rate : ℚ) * ((now - last : Nat) : ℚ) / (SECONDS_PER_YEAR * RAY) -
      ((now - last : Nat) : ℚ) / RAY) * RAY =
        RAY + rate / SECONDS_PER_YEAR * ((now - last : Nat) : ℚ) - ((now - last : Nat) : ℚ) := by
    field_simp [RAY_pos_rat.ne']
  rw [hcancel]
  linarith

theorem le_interest (scaled : Nat) {debt : ℚ} (hindex : RAY ≤ index)
    (hdebt : debt = halfUp (scaled * index) RAY) (hpos : 1 ≤ debt)
    (h : calculateCompoundedInterest rate last now = .ok factor) :
    debt * overPeriod rate (now - last) -
        (debt * ((now - last : Nat) : ℚ) / RAY + overPeriod rate (now - last) / 2 +
          (debt + 1 / 2) / RAY / 2 + 1) ≤
      halfUp (scaled * halfUp (factor * index) RAY) RAY - debt := by
  have hgrown := le_value_grown (s := scaled) (c := factor) RAY_pos hindex
  rw [← hdebt] at hgrown
  have hcharged := le_compoundedInterest h
  have hfactor : (debt - 1 / 2) *
      (1 + overPeriod rate (now - last) - ((now - last : Nat) : ℚ) / RAY) ≤
        (debt - 1 / 2) * (factor / RAY) := by
    gcongr
    linarith
  have hperiod : (0 : ℚ) ≤ ((now - last : Nat) : ℚ) / RAY := by positivity
  have hhalf : (debt + 1 / 2) / (2 * RAY) = (debt + 1 / 2) / RAY / 2 := by
    field_simp
  have hexpand : (debt - 1 / 2) *
      (1 + overPeriod rate (now - last) - ((now - last : Nat) : ℚ) / RAY) =
        debt - 1 / 2 + debt * overPeriod rate (now - last) - overPeriod rate (now - last) / 2 -
          debt * ((now - last : Nat) : ℚ) / RAY + ((now - last : Nat) : ℚ) / RAY / 2 := by ring
  rw [hhalf] at hgrown
  linarith

end Period

/-! ### An update of the reserve -/

def State.reserveDebt (s : State) (asset : Address) : Except Revert Nat :=
  rayMul (s.debtTokens asset).scaledTotalSupply (s.pool.reserves asset).variableBorrowIndex

def State.reserveClaims (s : State) (asset : Address) : Except Revert Nat :=
  rayMul (s.cTokens asset).scaledTotalSupply (s.pool.reserves asset).liquidityIndex

/-- The rates a reserve stores are those of its cash and its debt, which cover what its
depositors can claim. -/
structure RatesInForce (s : State) (asset : Address) (cash debt claims : Nat) : Prop where
  cToken : (s.pool.reserves asset).cTokenAddress = .cToken asset
  debtToken : (s.pool.reserves asset).debtTokenAddress = .debtToken asset
  RAY_le_liquidityIndex : RAY ≤ (s.pool.reserves asset).liquidityIndex
  RAY_le_variableBorrowIndex : RAY ≤ (s.pool.reserves asset).variableBorrowIndex
  reserveFactor : (s.pool.reserves asset).configuration.getReserveFactor ≤ PERCENTAGE_FACTOR
  cash_eq : (s.erc20 asset).balances (.cToken asset) = cash
  debt_eq : s.reserveDebt asset = .ok debt
  claims_eq : s.reserveClaims asset = .ok claims
  covered : claims ≤ cash + debt
  borrowRate : (s.pool.reserves asset).currentVariableBorrowRate ≤ RAY
  rates : ∃ interestRate : InterestRate, interestRate.calculateInterestRates cash debt
    (s.pool.reserves asset).configuration.getReserveFactor =
      .ok ((s.pool.reserves asset).currentLiquidityRate,
        (s.pool.reserves asset).currentVariableBorrowRate)

/-- What an amount may lose to roundings over a period. -/
def tolerance (amount period : Nat) : Nat := 10 + (amount * (period + 4) + RAY - 1) / RAY

theorem le_tolerance (amount period : Nat) :
    10 + (amount : ℚ) * (period + 4) / RAY ≤ tolerance amount period := by
  have hceil : amount * (period + 4) ≤ (amount * (period + 4) + RAY - 1) / RAY * RAY := by
    have hlt := Nat.lt_div_mul_add (a := amount * (period + 4) + RAY - 1) (b := RAY) RAY_pos
    omega
  have hceil' : (amount : ℚ) * (period + 4) ≤
      ((amount * (period + 4) + RAY - 1) / RAY : Nat) * RAY := by exact_mod_cast hceil
  unfold tolerance
  rw [Nat.cast_add]
  have hquotient : (amount : ℚ) * (period + 4) / RAY ≤
      ((amount * (period + 4) + RAY - 1) / RAY : Nat) := by
    rw [div_le_iff₀ RAY_pos_rat]
    exact hceil'
  push_cast at hquotient ⊢
  linarith

variable {s s' : State} {asset : Address} {cash debt claims debt' claims' : Nat}
  {factor interest index newIndex scaled rate now last cumulated : Nat}

/-- The treasury's position is worth its percentage of the interest and some rounding. -/
theorem treasuryShare_worth_le (interest : Nat) (hfactor : factor ≤ PERCENTAGE_FACTOR)
    (hpos : 0 < index)
    (hindex : index ≤ 10 * RAY) :
    (treasuryShare factor interest index : ℚ) * index / RAY ≤
      (1 - depositorShare factor) * interest + 11 / 2 := by
  have hamount := halfUp_le_add_half (interest * factor) (d := PERCENTAGE_FACTOR) (by decide)
  have hshare := halfUp_le_add_half (halfUp (interest * factor) PERCENTAGE_FACTOR * RAY) hpos
  have hpos' : (0 : ℚ) < index := by exact_mod_cast hpos
  have hindex' : (index : ℚ) ≤ 10 * RAY := by exact_mod_cast hindex
  have hrest : 1 - depositorShare factor = (factor : ℚ) / PERCENTAGE_FACTOR := by
    unfold depositorShare
    rw [Nat.cast_sub hfactor, sub_div, div_self (by norm_num [PERCENTAGE_FACTOR])]
    ring
  have hworth : (treasuryShare factor interest index : ℚ) * index / RAY ≤
      halfUp (interest * factor) PERCENTAGE_FACTOR + 5 := by
    rw [div_le_iff₀ RAY_pos_rat]
    unfold treasuryShare
    calc
      _ ≤ (((halfUp (interest * factor) PERCENTAGE_FACTOR * RAY : Nat) : ℚ) / index + 1 / 2) *
          index := by gcongr
      _ = halfUp (interest * factor) PERCENTAGE_FACTOR * RAY + index / 2 := by
        push_cast
        field_simp
      _ ≤ _ := by linarith
  rw [hrest]
  push_cast at hamount
  have hcomm : (factor : ℚ) / PERCENTAGE_FACTOR * interest =
      interest * factor / PERCENTAGE_FACTOR := by ring
  linarith

theorem claims_grown_le (scaled interest : Nat) (hfactor : factor ≤ PERCENTAGE_FACTOR)
    (hindex : RAY ≤ index)
    (hcumulated : calculateLinearInterest rate last now = .ok cumulated)
    (hnew : halfUp (cumulated * index) RAY = newIndex) (hmax : newIndex ≤ 10 * RAY)
    (hpos : 0 < newIndex) :
    (halfUp ((scaled + treasuryShare factor interest newIndex) * newIndex) RAY : ℚ) ≤
      (halfUp (scaled * index) RAY + 1 / 2) *
          (1 + overPeriod rate (now - last) + 1 / RAY / 2) +
        (1 - depositorShare factor) * interest + 6 := by
  have hvalue := halfUp_le_add_half
    ((scaled + treasuryShare factor interest newIndex) * newIndex) RAY_pos
  have hgrown := value_grown_le (s := scaled) (c := cumulated) RAY_pos hindex
  have hlinear := linearInterest_le hcumulated
  have htreasury := treasuryShare_worth_le interest hfactor hpos hmax
  rw [hnew] at hgrown
  have hsplit : (((scaled + treasuryShare factor interest newIndex) * newIndex : Nat) : ℚ) / RAY =
      (scaled : ℚ) * newIndex / RAY +
        (treasuryShare factor interest newIndex : ℚ) * newIndex / RAY := by
    push_cast
    ring
  have hfactors : ((halfUp (scaled * index) RAY : ℚ) + 1 / 2) *
      ((cumulated : ℚ) / RAY + 1 / (2 * RAY)) ≤
        (halfUp (scaled * index) RAY + 1 / 2) *
          (1 + overPeriod rate (now - last) + 1 / RAY / 2) := by
    have hhalf : (1 : ℚ) / (2 * RAY) = 1 / RAY / 2 := by field_simp
    rw [hhalf]
    gcongr
  linarith

theorem overPeriod_liquidityRate_le {interestRate : InterestRate} {rates : Nat × Nat}
    {period : Nat} (hdebt : 0 < debt) (hrate : rates.2 ≤ RAY)
    (hperiod : period ≤ SECONDS_PER_YEAR)
    (h : interestRate.calculateInterestRates cash debt factor = .ok rates) :
    ((cash : ℚ) + debt) * overPeriod rates.1 period ≤
      depositorShare factor * (debt * overPeriod rates.2 period) +
        (WAD / 2 + 5 / 2 * (cash + debt)) / RAY := by
  have hrates := liquidityRate_mul_le hdebt hrate h
  have hyear := year_pos
  have hray := RAY_pos_rat
  have hpart : (period : ℚ) / (SECONDS_PER_YEAR * RAY) ≤ 1 / RAY := by
    have hperiod' : (period : ℚ) ≤ SECONDS_PER_YEAR := by exact_mod_cast hperiod
    rw [div_le_div_iff₀ (mul_pos hyear hray) hray]
    calc
      (period : ℚ) * RAY ≤ SECONDS_PER_YEAR * RAY := by gcongr
      _ = 1 * (SECONDS_PER_YEAR * RAY) := by ring
  unfold overPeriod
  calc
    ((cash : ℚ) + debt) * (rates.1 * period / (SECONDS_PER_YEAR * RAY)) =
        rates.1 * (cash + debt) * (period / (SECONDS_PER_YEAR * RAY)) := by ring
    _ ≤ (depositorShare factor * (rates.2 * debt) + WAD / 2 + 5 / 2 * (cash + debt)) *
        (period / (SECONDS_PER_YEAR * RAY)) := by gcongr
    _ = depositorShare factor * (debt * (rates.2 * period / (SECONDS_PER_YEAR * RAY))) +
        (WAD / 2 + 5 / 2 * (cash + debt)) * (period / (SECONDS_PER_YEAR * RAY)) := by ring
    _ ≤ depositorShare factor * (debt * (rates.2 * period / (SECONDS_PER_YEAR * RAY))) +
        (WAD / 2 + 5 / 2 * (cash + debt)) * (1 / RAY) := by gcongr
    _ = _ := by ring

/-- The credits and the charges of a period, put together, with `unit` for one unit of a ray:
depositors' share of the interest cancels, and what is left are the roundings. -/
private theorem margin_of_parts {total debt claims claims' interest share earned charged period
    unit wad : ℚ} (hunit : 0 ≤ unit) (hsmall : wad / 2 + unit ≤ 1) (hperiod : 0 ≤ period)
    (hshare : 0 ≤ share) (hone : share ≤ 1) (hdebt : 0 ≤ debt) (htotal : debt ≤ total)
    (hcovered : claims ≤ total) (hearned : 0 ≤ earned) (htwo : earned ≤ 2)
    (hcharged : 0 ≤ charged) (hwhole : charged ≤ 1)
    (hrates : total * earned ≤ share * (debt * charged) + (wad / 2 + 5 / 2 * (total * unit)))
    (hinterest : debt * charged -
      (debt * period * unit + charged / 2 + (debt + 1 / 2) * unit / 2 + 1) ≤ interest)
    (hclaims : claims' ≤ (claims + 1 / 2) * (1 + earned + unit / 2) +
      (1 - share) * interest + 6) :
    claims' ≤ total + interest + (10 + total * (period + 4) * unit) := by
  have hgrown : (claims + 1 / 2) * (1 + earned + unit / 2) ≤
      (total + 1 / 2) * (1 + earned + unit / 2) := by gcongr
  have hkept := mul_le_mul_of_nonneg_left hinterest hshare
  have hloss : share * (debt * period * unit + charged / 2 + (debt + 1 / 2) * unit / 2 + 1) ≤
      1 * (debt * period * unit + charged / 2 + (debt + 1 / 2) * unit / 2 + 1) := by gcongr
  have hperiods : debt * period * unit ≤ total * period * unit := by gcongr
  have hunits : debt * unit ≤ total * unit := by gcongr
  have hpart : 0 ≤ total * unit := mul_nonneg (hdebt.trans htotal) hunit
  linarith

private theorem margin_of_same {li vi : Nat} {cTokens : Address → CToken}
    (h : RatesInForce s asset cash debt claims)
    (hmint : mintToTreasury s.cTokens (s.pool.reserves asset)
      (s.debtTokens asset).ledger.totalSupply (s.pool.reserves asset).variableBorrowIndex li vi =
        .ok cTokens)
    (hli : li = (s.pool.reserves asset).liquidityIndex)
    (hvi : vi = (s.pool.reserves asset).variableBorrowIndex)
    (hdebt' : rayMul (s.debtTokens asset).scaledTotalSupply vi = .ok debt')
    (hclaims' : rayMul (cTokens asset).scaledTotalSupply li = .ok claims') :
    claims' ≤ cash + debt' := by
  subst hli hvi
  have hcTokens := mintToTreasury_spec h.cToken hmint
  have hcredited : (cTokens asset).scaledTotalSupply = (s.cTokens asset).scaledTotalSupply := by
    simp [hcTokens, CToken.credited, CToken.scaledTotalSupply, interestCharged, treasuryShare]
  rw [hcredited] at hclaims'
  obtain rfl := Except.ok.inj (h.debt_eq.symm.trans hdebt')
  obtain rfl := Except.ok.inj (h.claims_eq.symm.trans hclaims')
  exact h.covered

private theorem margin_of_earning {li vi cumulated compounded : Nat} {cTokens : Address → CToken}
    (h : RatesInForce s asset cash debt claims) (hpos : 0 < debt)
    (hperiod : s.timestamp - (s.pool.reserves asset).lastUpdateTimestamp ≤ SECONDS_PER_YEAR)
    (hcumulated : calculateLinearInterest (s.pool.reserves asset).currentLiquidityRate
      (s.pool.reserves asset).lastUpdateTimestamp s.timestamp = .ok cumulated)
    (hli : rayMul cumulated (s.pool.reserves asset).liquidityIndex = .ok li)
    (hcompounded : calculateCompoundedInterest (s.pool.reserves asset).currentVariableBorrowRate
      (s.pool.reserves asset).lastUpdateTimestamp s.timestamp = .ok compounded)
    (hvi : rayMul compounded (s.pool.reserves asset).variableBorrowIndex = .ok vi)
    (hmint : mintToTreasury s.cTokens (s.pool.reserves asset)
      (s.debtTokens asset).ledger.totalSupply (s.pool.reserves asset).variableBorrowIndex li vi =
        .ok cTokens)
    (hindex : li ≤ 10 * RAY)
    (hdebt' : rayMul (s.debtTokens asset).scaledTotalSupply vi = .ok debt')
    (hclaims' : rayMul (cTokens asset).scaledTotalSupply li = .ok claims') :
    claims' ≤ cash + debt' + tolerance (cash + debt)
      (s.timestamp - (s.pool.reserves asset).lastUpdateTimestamp) := by
  obtain ⟨interestRate, hrates⟩ := h.rates
  have hliPos : 0 < li := Nat.lt_of_lt_of_le RAY_pos
    (h.RAY_le_liquidityIndex.trans (le_rayMul (RAY_le_linearInterest hcumulated) hli))
  have hviLe := le_rayMul (RAY_le_compoundedInterest hcompounded) hvi
  obtain ⟨-, hliEq⟩ := rayMul_eq_ok.mp hli
  obtain ⟨-, rfl⟩ := rayMul_eq_ok.mp hvi
  obtain ⟨-, hdebtEq⟩ := rayMul_eq_ok.mp h.debt_eq
  obtain ⟨-, hclaimsEq⟩ := rayMul_eq_ok.mp h.claims_eq
  obtain ⟨-, hdebtEq'⟩ := rayMul_eq_ok.mp hdebt'
  obtain ⟨-, hclaimsEq'⟩ := rayMul_eq_ok.mp hclaims'
  have hgrew : debt ≤ debt' := by
    rw [← hdebtEq, ← hdebtEq']
    exact halfUp_mono (Nat.mul_le_mul_left _ hviLe) RAY
  have hminted : (cTokens asset).scaledTotalSupply = (s.cTokens asset).scaledTotalSupply +
      treasuryShare (s.pool.reserves asset).configuration.getReserveFactor (debt' - debt) li := by
    have hinterest : interestCharged (s.debtTokens asset).ledger.totalSupply
        (s.pool.reserves asset).variableBorrowIndex
          (halfUp (compounded * (s.pool.reserves asset).variableBorrowIndex) RAY) =
        debt' - debt := by
      unfold interestCharged
      rw [← hdebtEq, ← hdebtEq', DebtToken.scaledTotalSupply]
    rw [mintToTreasury_spec h.cToken hmint, Function.update_self, hinterest,
      CToken.credited_scaledTotalSupply]
  have hclaimed := claims_grown_le (s.cTokens asset).scaledTotalSupply (debt' - debt)
    h.reserveFactor h.RAY_le_liquidityIndex hcumulated hliEq hindex hliPos
  rw [← hminted, hclaimsEq', hclaimsEq, Nat.cast_sub hgrew] at hclaimed
  have hdebtPos : (1 : ℚ) ≤ debt := by exact_mod_cast hpos
  have hinterest := le_interest (s.debtTokens asset).scaledTotalSupply
    h.RAY_le_variableBorrowIndex (congrArg _ hdebtEq.symm) hdebtPos hcompounded
  rw [hdebtEq'] at hinterest
  have hshared := overPeriod_liquidityRate_le hpos h.borrowRate hperiod hrates
  have hray := RAY_pos_rat
  have hearned : overPeriod (s.pool.reserves asset).currentLiquidityRate
      (s.timestamp - (s.pool.reserves asset).lastUpdateTimestamp) ≤ 2 := by
    apply (overPeriod_le hperiod).trans
    rw [div_le_iff₀ hray]
    exact liquidityRate_le_two hpos h.borrowRate hrates
  have hcharged : overPeriod (s.pool.reserves asset).currentVariableBorrowRate
      (s.timestamp - (s.pool.reserves asset).lastUpdateTimestamp) ≤ 1 := by
    apply (overPeriod_le hperiod).trans
    rw [div_le_one hray]
    exact_mod_cast h.borrowRate
  have hcovered : (claims : ℚ) ≤ cash + debt := by exact_mod_cast h.covered
  have hcash : (debt : ℚ) ≤ cash + debt := le_add_of_nonneg_left (Nat.cast_nonneg _)
  have hsmall : (WAD : ℚ) / RAY / 2 + 1 / RAY ≤ 1 := by norm_num [WAD, RAY]
  have hunit : (0 : ℚ) ≤ 1 / RAY := by positivity
  have hpassed : (0 : ℚ) ≤
      ((s.timestamp - (s.pool.reserves asset).lastUpdateTimestamp : Nat) : ℚ) := Nat.cast_nonneg _
  have hmargin := margin_of_parts hunit hsmall hpassed
    (depositorShare_nonneg _) (depositorShare_le_one _) (Nat.cast_nonneg _) hcash hcovered
    (overPeriod_nonneg _ _) hearned (overPeriod_nonneg _ _) hcharged
    (hshared.trans (le_of_eq (by ring))) (le_of_eq_of_le (by ring) hinterest) hclaimed
  have htolerance := le_tolerance (cash + debt)
    (s.timestamp - (s.pool.reserves asset).lastUpdateTimestamp)
  have htotal : ((cash + debt : Nat) : ℚ) *
      (((s.timestamp - (s.pool.reserves asset).lastUpdateTimestamp : Nat) : ℚ) + 4) / RAY =
        (cash + debt) *
          (((s.timestamp - (s.pool.reserves asset).lastUpdateTimestamp : Nat) : ℚ) + 4) *
            (1 / RAY) := by
    push_cast
    ring
  rw [htotal] at htolerance
  have hresult : (claims' : ℚ) ≤ ((cash + debt' + tolerance (cash + debt)
      (s.timestamp - (s.pool.reserves asset).lastUpdateTimestamp) : Nat) : ℚ) := by
    push_cast
    linarith
  exact_mod_cast hresult

/-- Accrual never lets the claims on a reserve outgrow its cash and its debt by more than the
roundings of a period. -/
theorem credits_within_margin (h : RatesInForce s asset cash debt claims)
    (hperiod : s.timestamp - (s.pool.reserves asset).lastUpdateTimestamp ≤ SECONDS_PER_YEAR)
    (hupdate : updateState s asset = .ok s')
    (hindex : (s'.pool.reserves asset).liquidityIndex ≤ 10 * RAY)
    (hdebt' : s'.reserveDebt asset = .ok debt') (hclaims' : s'.reserveClaims asset = .ok claims') :
    claims' ≤ cash + debt' + tolerance (cash + debt)
      (s.timestamp - (s.pool.reserves asset).lastUpdateTimestamp) := by
  obtain ⟨debtAsset, li, vi, cTokens, hdebtAsset, hli, hvi, hmint, rfl⟩ :=
    updateState_eq_ok.mp hupdate
  obtain rfl : asset = debtAsset := Address.debtToken.inj (h.debtToken.symm.trans hdebtAsset)
  simp only [State.reserveDebt, State.reserveClaims, LendPoolStorage.setReserve_reserves,
    Function.update_self, ReserveData.accrued] at hindex hdebt' hclaims'
  by_cases hearning : (s.pool.reserves asset).currentLiquidityRate > 0
  · obtain ⟨interestRate, hrates⟩ := h.rates
    have hpos : 0 < debt := by
      apply Nat.pos_of_ne_zero
      rintro rfl
      exact Nat.ne_of_gt hearning (liquidityRate_of_no_debt hrates)
    have hscaled : (s.debtTokens asset).ledger.totalSupply ≠ 0 := by
      intro hnone
      have hzero := h.debt_eq
      unfold State.reserveDebt DebtToken.scaledTotalSupply at hzero
      rw [hnone, rayMul_zero_left] at hzero
      exact Nat.ne_of_lt hpos (Except.ok.inj hzero)
    unfold updatedLiquidityIndex at hli
    rw [if_pos hearning] at hli
    obtain ⟨cumulated, hcumulated, hnew, -⟩ := accumulate_eq_ok.mp hli
    unfold updatedBorrowIndex at hvi
    rw [if_pos ⟨hearning, hscaled⟩] at hvi
    obtain ⟨compounded, hcompounded, hnewDebt, -⟩ := accumulate_eq_ok.mp hvi
    exact margin_of_earning h hpos hperiod hcumulated hnew hcompounded hnewDebt hmint hindex hdebt'
      hclaims'
  · have hsame : li = (s.pool.reserves asset).liquidityIndex := by
      unfold updatedLiquidityIndex at hli
      rw [if_neg hearning] at hli
      exact (pure_eq_ok.mp hli).symm
    have hsameDebt : vi = (s.pool.reserves asset).variableBorrowIndex := by
      unfold updatedBorrowIndex at hvi
      rw [if_neg fun hboth => hearning hboth.1] at hvi
      exact (pure_eq_ok.mp hvi).symm
    exact (margin_of_same h hmint hsame hsameDebt hdebt' hclaims').trans (Nat.le_add_right _ _)

def sampleRates : InterestRate := ⟨5 * 10 ^ 26, 5 * 10 ^ 26, 10 ^ 26, 10 ^ 26, 10 ^ 27, by decide⟩

def sampleDayAfter : State := sampleLent.atTime 1086400

theorem sampleDayAfter_ratesInForce : RatesInForce sampleDayAfter sampleMarket.asset
    (960 * 10 ^ 18) (40 * 10 ^ 18) (1000 * 10 ^ 18) where
  cToken := by decide +kernel
  debtToken := by decide +kernel
  RAY_le_liquidityIndex := by decide +kernel
  RAY_le_variableBorrowIndex := by decide +kernel
  reserveFactor := by decide +kernel
  cash_eq := by decide +kernel
  debt_eq := eq_ok_of_passes (by decide +kernel)
  claims_eq := eq_ok_of_passes (by decide +kernel)
  covered := by decide
  borrowRate := by decide +kernel
  rates := ⟨sampleRates, eq_ok_of_passes (by decide +kernel)⟩

/-- The credits of a day stay within the roundings. -/
theorem credits_within_margin_after_a_day : ∃ s' debt' claims',
    updateState sampleDayAfter sampleMarket.asset = .ok s' ∧
      s'.reserveDebt sampleMarket.asset = .ok debt' ∧
        s'.reserveClaims sampleMarket.asset = .ok claims' ∧
          claims' ≤ 960 * 10 ^ 18 + debt' + tolerance (960 * 10 ^ 18 + 40 * 10 ^ 18)
            (sampleDayAfter.timestamp -
              (sampleDayAfter.pool.reserves sampleMarket.asset).lastUpdateTimestamp) := by
  have hcheck : passes (updateState sampleDayAfter sampleMarket.asset) (fun s' =>
      decide ((s'.pool.reserves sampleMarket.asset).liquidityIndex ≤ 10 * RAY) &&
        (passes (s'.reserveDebt sampleMarket.asset) (fun _ => true) &&
          passes (s'.reserveClaims sampleMarket.asset) fun _ => true)) = true := by decide +kernel
  obtain ⟨s', hupdate, hs'⟩ := exists_of_passes hcheck
  obtain ⟨hindex, hvalues⟩ := Bool.and_eq_true_iff.mp hs'
  obtain ⟨hdebt, hclaims⟩ := Bool.and_eq_true_iff.mp hvalues
  obtain ⟨debt', hdebt', -⟩ := exists_of_passes hdebt
  obtain ⟨claims', hclaims', -⟩ := exists_of_passes hclaims
  exact ⟨s', debt', claims', hupdate, hdebt', hclaims', credits_within_margin
    sampleDayAfter_ratesInForce (by decide +kernel) hupdate (of_decide_eq_true hindex) hdebt'
    hclaims'⟩

end Confetti
