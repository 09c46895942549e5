import Confetti.Effects.Quotes
import Confetti.Invariants.AssetLists
import Confetti.Protocol.Deployment

/-! Two ways to find a loan unsafe. The view divides the threshold by the debt and rounds
to eighteen decimals, an offer compares the two; a debt that exceeds the threshold by too
little for the decimals is sound in the view and for sale to the first offer. -/
namespace Confetti
open Outcome HalfUp TransitionSystem GenericLogic

/-- The debt does not exceed the threshold, or by more than rounding can hide. -/
def Decisive (collateral debt liquidationThreshold : Nat) : Prop :=
  debt ≤ halfUp (collateral * liquidationThreshold) PERCENTAGE_FACTOR ∨
    debt / 2 < (debt - halfUp (collateral * liquidationThreshold) PERCENTAGE_FACTOR) * WAD

instance (collateral debt liquidationThreshold : Nat) :
    Decidable (Decisive collateral debt liquidationThreshold) :=
  inferInstanceAs (Decidable (_ ∨ _))

variable {collateral debt threshold liquidationThreshold healthFactor : Nat}

theorem healthFactor_eq (hdebt : 0 < debt)
    (hthreshold : percentMul collateral liquidationThreshold = .ok threshold)
    (hhealth : calculateHealthFactorFromBalances collateral debt liquidationThreshold =
      .ok healthFactor) : halfUp (threshold * WAD) debt = healthFactor := by
  unfold calculateHealthFactorFromBalances at hhealth
  rw [if_neg (by omega), hthreshold, ok_bind] at hhealth
  exact (wadDiv_eq_ok.mp hhealth).2.2

/-- The rounded quotient is below one exactly if half a divisor is missing to one. -/
theorem quotient_lt_one_iff (hdebt : 0 < debt) (threshold : Nat) :
    halfUp (threshold * WAD) debt < WAD ↔ threshold < debt ∧ debt / 2 < (debt - threshold) * WAD := by
  rw [halfUp_lt_iff hdebt]
  have hone : WAD * debt = debt * WAD := Nat.mul_comm WAD debt
  have hmissing : (debt - threshold) * WAD = debt * WAD - threshold * WAD :=
    Nat.sub_mul debt threshold WAD
  constructor
  · intro h
    have hlt : threshold < debt := by
      by_contra hle
      have := Nat.mul_le_mul_right WAD (Nat.le_of_not_lt hle)
      omega
    exact ⟨hlt, by omega⟩
  · rintro ⟨hlt, hhalf⟩
    omega

theorem healthFactor_decides_iff (hdebt : 0 < debt)
    (hthreshold : percentMul collateral liquidationThreshold = .ok threshold)
    (hhealth : calculateHealthFactorFromBalances collateral debt liquidationThreshold =
      .ok healthFactor) :
    (healthFactor < HEALTH_FACTOR_LIQUIDATION_THRESHOLD ↔ debt > threshold) ↔
      Decisive collateral debt liquidationThreshold := by
  have hwad : HEALTH_FACTOR_LIQUIDATION_THRESHOLD = WAD := rfl
  rw [hwad, ← healthFactor_eq hdebt hthreshold hhealth, quotient_lt_one_iff hdebt]
  unfold Decisive
  rw [(percentMul_eq_ok.mp hthreshold).2]
  constructor
  · intro hagree
    by_cases hle : debt ≤ threshold
    · exact .inl hle
    · exact .inr (hagree.mpr (by omega)).2
  · intro hdecisive
    constructor
    · exact fun h => h.1
    · intro hlt
      exact ⟨hlt, hdecisive.resolve_left (by omega)⟩

variable {s s' : State} {nftAsset : Address} {nftTokenId : Nat} {data : LendPool.NftDebtData}
  {prices : Nat × Nat × Nat}

/-- A registered loan lends from a listed reserve, so not from the zero address. -/
theorem reserveAsset_ne_zero (hs : Reachable operations s)
    (hid : s.loanStore.nftToLoanIds nftAsset nftTokenId ≠ 0) :
    (s.loanOf nftAsset nftTokenId).reserveAsset ≠ .zero := by
  have hreg := regular_of_reachable hs
  apply ne_zero_of_listed hs
  exact hreg.listed _ (hreg.book.registered_live hid)

/-- At one index and one price the view and the first offer agree on whether a loan is
unsafe exactly if the debt is decisive. -/
theorem unsafe_in_view_iff_for_sale (hs : Reachable operations s)
    (hid : s.loanStore.nftToLoanIds nftAsset nftTokenId ≠ 0)
    (hactive : (s.loanOf nftAsset nftTokenId).state = .Active)
    (hquote : LendPool.getNftDebtData s nftAsset nftTokenId = .ok data)
    (hdebt : 0 < data.totalDebt)
    (hupdate : ReserveLogic.updateState s (s.loanOf nftAsset nftTokenId).reserveAsset = .ok s')
    (hindex : ShowsDebtIndex s (s.loanOf nftAsset nftTokenId).reserveAsset
      (s'.pool.reserves (s.loanOf nftAsset nftTokenId).reserveAsset).variableBorrowIndex)
    (hprices : calculateLoanLiquidatePrice s' (s.loanStore.nftToLoanIds nftAsset nftTokenId)
      (s.loanOf nftAsset nftTokenId).reserveAsset (s.loanOf nftAsset nftTokenId).nftAsset =
        .ok prices) :
    (data.healthFactor < HEALTH_FACTOR_LIQUIDATION_THRESHOLD ↔ prices.1 > prices.2.1) ↔
      Decisive data.totalCollateral data.totalDebt
        (s.pool.nfts nftAsset).configuration.getCollateralParams.2.1 := by
  have hreg := regular_of_reachable hs
  have hquoted := getNftDebtData_spec hid (reserveAsset_ne_zero hs hid) hquote
  obtain ⟨li, vi, cTokens, -, rfl⟩ := (updateState_iff hreg.sound.wired).mp hupdate
  obtain ⟨hborrowed, price, hprice, hthreshold, -, -⟩ := (liquidatePrice_accrued rfl).mp hprices
  rw [accrued_variableBorrowIndex] at hindex
  have hnft : (s.loanOf nftAsset nftTokenId).nftAsset = nftAsset :=
    (hreg.book.filed nftAsset nftTokenId hid).2.1
  have hshown : data.totalDebt = prices.1 := by
    have hdebt' := hquoted.debt
    rw [hindex.borrowAmount rfl] at hdebt'
    exact Except.ok.inj (hdebt'.symm.trans hborrowed)
  have hcollateral : price = data.totalCollateral := by
    rw [hnft] at hprice
    exact Except.ok.inj (hprice.symm.trans hquoted.collateral)
  rw [hnft, hcollateral] at hthreshold
  rw [← hshown]
  exact healthFactor_decides_iff hdebt hthreshold (hquoted.healthFactor hactive)

/-- The view, the update and the prices of the sample loan, and whether the view and the
comparison find it unsafe. -/
private def sampleVerdicts (nftPrice : Nat) (viewed compared : Bool) : Bool :=
  passes (LendPool.getNftDebtData (samplePriced nftPrice) sampleMarket.nftAsset 7) fun data =>
    passes (ReserveLogic.updateState (samplePriced nftPrice) sampleMarket.asset) fun s' =>
      passes (calculateLoanLiquidatePrice s' 1 sampleMarket.asset sampleMarket.nftAsset)
        fun prices =>
          passes (ReserveLogic.getNormalizedDebt
              ((samplePriced nftPrice).pool.reserves sampleMarket.asset)
              (samplePriced nftPrice).timestamp) (fun index =>
                decide (index = (s'.pool.reserves sampleMarket.asset).variableBorrowIndex)) &&
            decide (0 < data.totalDebt ∧
              (data.healthFactor < HEALTH_FACTOR_LIQUIDATION_THRESHOLD ↔ viewed = true) ∧
              (prices.1 > prices.2.1 ↔ compared = true))

/-- The NFT lost half of its price: unsafe in the view, for sale to an offer. -/
theorem unsafe_in_view_iff_for_sale_half :
    ∃ data s' prices, LendPool.getNftDebtData (samplePriced (50 * 10 ^ 18)) sampleMarket.nftAsset 7 =
        .ok data ∧
      ReserveLogic.updateState (samplePriced (50 * 10 ^ 18)) sampleMarket.asset = .ok s' ∧
      calculateLoanLiquidatePrice s' 1 sampleMarket.asset sampleMarket.nftAsset = .ok prices ∧
      ((data.healthFactor < HEALTH_FACTOR_LIQUIDATION_THRESHOLD ↔ prices.1 > prices.2.1) ↔
        Decisive data.totalCollateral data.totalDebt 6000) := by
  have hcheck : sampleVerdicts (50 * 10 ^ 18) true true = true := by decide +kernel
  obtain ⟨data, hquote, hcheck⟩ := exists_of_passes hcheck
  obtain ⟨s', hupdate, hcheck⟩ := exists_of_passes hcheck
  obtain ⟨prices, hprices, hcheck⟩ := exists_of_passes hcheck
  obtain ⟨hindex, hverdicts⟩ := Bool.and_eq_true_iff.mp hcheck
  have hid : (samplePriced (50 * 10 ^ 18)).loanStore.nftToLoanIds sampleMarket.nftAsset 7 = 1 := by
    decide +kernel
  have hloan : ((samplePriced (50 * 10 ^ 18)).loanOf sampleMarket.nftAsset 7).state = .Active ∧
      ((samplePriced (50 * 10 ^ 18)).loanOf sampleMarket.nftAsset 7).reserveAsset =
        sampleMarket.asset ∧
      ((samplePriced (50 * 10 ^ 18)).loanOf sampleMarket.nftAsset 7).nftAsset =
        sampleMarket.nftAsset ∧
      ((samplePriced (50 * 10 ^ 18)).pool.nfts
        sampleMarket.nftAsset).configuration.getCollateralParams.2.1 = 6000 := by
    decide +kernel
  obtain ⟨hactive, hasset, hnft, hparams⟩ := hloan
  refine ⟨data, s', prices, hquote, hupdate, hprices, ?_⟩
  have hiff := unsafe_in_view_iff_for_sale (samplePriced_reachable (50 * 10 ^ 18)) (by rw [hid]; decide)
    hactive hquote (of_decide_eq_true hverdicts).1 (by rw [hasset]; exact hupdate)
    (by rw [hasset]; exact eq_ok_of_passes hindex) (by rw [hid, hasset, hnft]; exact hprices)
  rw [hparams] at hiff
  exact hiff

/-- A debt of 40 units over a threshold that is one smallest unit less: the view says one,
which is not unsafe, while the loan is for sale. -/
theorem sound_in_view_yet_for_sale :
    ¬∀ (s : State) (nftAsset : Address) (nftTokenId : Nat) (data : LendPool.NftDebtData)
      (s' : State) (prices : Nat × Nat × Nat), Reachable operations s →
      s.loanStore.nftToLoanIds nftAsset nftTokenId ≠ 0 →
      (s.loanOf nftAsset nftTokenId).state = .Active →
      LendPool.getNftDebtData s nftAsset nftTokenId = .ok data → 0 < data.totalDebt →
      ReserveLogic.updateState s (s.loanOf nftAsset nftTokenId).reserveAsset = .ok s' →
      ShowsDebtIndex s (s.loanOf nftAsset nftTokenId).reserveAsset
        (s'.pool.reserves (s.loanOf nftAsset nftTokenId).reserveAsset).variableBorrowIndex →
      calculateLoanLiquidatePrice s' (s.loanStore.nftToLoanIds nftAsset nftTokenId)
        (s.loanOf nftAsset nftTokenId).reserveAsset (s.loanOf nftAsset nftTokenId).nftAsset =
          .ok prices →
      (data.healthFactor < HEALTH_FACTOR_LIQUIDATION_THRESHOLD ↔ prices.1 > prices.2.1) := by
  intro h
  have hcheck : sampleVerdicts 66666666666666666665 false true = true := by decide +kernel
  obtain ⟨data, hquote, hcheck⟩ := exists_of_passes hcheck
  obtain ⟨s', hupdate, hcheck⟩ := exists_of_passes hcheck
  obtain ⟨prices, hprices, hcheck⟩ := exists_of_passes hcheck
  obtain ⟨hindex, hverdicts⟩ := Bool.and_eq_true_iff.mp hcheck
  have hid : (samplePriced 66666666666666666665).loanStore.nftToLoanIds sampleMarket.nftAsset 7 =
      1 := by decide +kernel
  have hloan : ((samplePriced 66666666666666666665).loanOf sampleMarket.nftAsset 7).state = .Active ∧
      ((samplePriced 66666666666666666665).loanOf sampleMarket.nftAsset 7).reserveAsset =
        sampleMarket.asset ∧
      ((samplePriced 66666666666666666665).loanOf sampleMarket.nftAsset 7).nftAsset =
        sampleMarket.nftAsset := by decide +kernel
  obtain ⟨hactive, hasset, hnft⟩ := hloan
  obtain ⟨hdebt, hviewed, hcompared⟩ := of_decide_eq_true hverdicts
  have hagree := h (samplePriced 66666666666666666665) sampleMarket.nftAsset 7 data s' prices
    (samplePriced_reachable _) (by rw [hid]; decide) hactive hquote hdebt
    (by rw [hasset]; exact hupdate) (by rw [hasset]; exact eq_ok_of_passes hindex)
    (by rw [hid, hasset, hnft]; exact hprices)
  have hviewed' := hviewed.mp (hagree.mpr (hcompared.mpr rfl))
  cases hviewed'

end Confetti
