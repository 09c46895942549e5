import Confetti.Effects.Quotes
import Confetti.Invariants.Shortfall

/-! The indexes as the views show them and as an update of the reserve stores them. The
views compound the debt whenever time has passed, the update only if depositors earn. -/
namespace Confetti
open Outcome TransitionSystem ReserveLogic

/-- The update accrues like the views: within the stored second if nothing can have
accrued, later if depositors earn or the debt is too cheap to grow. -/
def AccruesAlike (reserve : ReserveData) (now : Nat) : Prop :=
  if reserve.lastUpdateTimestamp = uint40 now then
    now = reserve.lastUpdateTimestamp ∨ reserve.currentLiquidityRate = 0
  else reserve.currentLiquidityRate ≠ 0 ∨ (reserve.currentVariableBorrowRate < SECONDS_PER_YEAR ∧
    CoefficientsFit (now - reserve.lastUpdateTimestamp))

instance (reserve : ReserveData) (now : Nat) : Decidable (AccruesAlike reserve now) :=
  inferInstanceAs (Decidable (ite _ _ _))

section Indexes

variable {reserve : ReserveData} {asset : Address} {now supply li vi : Nat}

theorem updatedLiquidityIndex_idle (hrate : reserve.currentLiquidityRate = 0)
    (h : updatedLiquidityIndex reserve now = .ok li) : li = reserve.liquidityIndex := by
  unfold updatedLiquidityIndex at h
  rw [if_neg (by omega), pure_eq_ok] at h
  exact h.symm

theorem updatedBorrowIndex_idle (hrate : reserve.currentLiquidityRate = 0)
    (h : updatedBorrowIndex reserve supply now = .ok vi) : vi = reserve.variableBorrowIndex := by
  unfold updatedBorrowIndex at h
  rw [if_neg (by omega), pure_eq_ok] at h
  exact h.symm

theorem updatedLiquidityIndex_factor (hrate : reserve.currentLiquidityRate ≠ 0)
    (h : updatedLiquidityIndex reserve now = .ok li) :
    ∃ factor, calculateLinearInterest reserve.currentLiquidityRate reserve.lastUpdateTimestamp
      now = .ok factor ∧ rayMul factor reserve.liquidityIndex = .ok li := by
  unfold updatedLiquidityIndex at h
  rw [if_pos (by omega)] at h
  obtain ⟨factor, hfactor, hmul, -⟩ := accumulate_eq_ok.mp h
  exact ⟨factor, hfactor, hmul⟩

theorem updatedBorrowIndex_factor (hrate : reserve.currentLiquidityRate ≠ 0)
    (hsupply : supply ≠ 0) (h : updatedBorrowIndex reserve supply now = .ok vi) :
    ∃ factor, calculateCompoundedInterest reserve.currentVariableBorrowRate
      reserve.lastUpdateTimestamp now = .ok factor ∧
        rayMul factor reserve.variableBorrowIndex = .ok vi := by
  unfold updatedBorrowIndex at h
  rw [if_pos ⟨by omega, hsupply⟩] at h
  obtain ⟨factor, hfactor, hmul, -⟩ := accumulate_eq_ok.mp h
  exact ⟨factor, hfactor, hmul⟩

theorem income_of_alike (hlisted : reserve.Listed asset)
    (hle : reserve.currentLiquidityRate = 0 → reserve.lastUpdateTimestamp ≤ now)
    (hli : updatedLiquidityIndex reserve now = .ok li) (halike : AccruesAlike reserve now) :
    getNormalizedIncome reserve now = .ok li := by
  unfold getNormalizedIncome AccruesAlike at *
  by_cases hrate : reserve.currentLiquidityRate = 0
  · rw [updatedLiquidityIndex_idle hrate hli]
    simp only [hrate, linearInterest_zero_rate (hle hrate), ok_bind,
      rayMul_RAY_of_le hlisted.liquidityIndex_le]
    split <;> rfl
  · obtain ⟨factor, hfactor, hmul⟩ := updatedLiquidityIndex_factor hrate hli
    by_cases hclock : reserve.lastUpdateTimestamp = uint40 now
    · rw [if_pos hclock] at halike ⊢
      have hnow : now = reserve.lastUpdateTimestamp := halike.resolve_right hrate
      rw [← hnow] at hfactor
      have hsame : li = reserve.liquidityIndex := by
        rw [linearInterest_self hfactor] at hmul
        exact rayMul_RAY hmul
      rw [hsame]
      rfl
    · rw [if_neg hclock, hfactor, ok_bind]
      exact hmul

theorem debt_of_alike (hlisted : reserve.Listed asset)
    (hle : reserve.currentLiquidityRate = 0 → reserve.lastUpdateTimestamp ≤ now)
    (hsupply : supply ≠ 0) (hvi : updatedBorrowIndex reserve supply now = .ok vi)
    (halike : AccruesAlike reserve now) : getNormalizedDebt reserve now = .ok vi := by
  unfold getNormalizedDebt AccruesAlike at *
  by_cases hrate : reserve.currentLiquidityRate = 0
  · rw [updatedBorrowIndex_idle hrate hvi]
    by_cases hclock : reserve.lastUpdateTimestamp = uint40 now
    · rw [if_pos hclock]
      rfl
    · rw [if_neg hclock] at halike ⊢
      obtain ⟨hcheap, hfits⟩ := halike.resolve_left fun hne => hne hrate
      rw [compoundedInterest_of_small hcheap (hle hrate) hfits, ok_bind]
      exact rayMul_RAY_of_le hlisted.variableBorrowIndex_le
  · obtain ⟨factor, hfactor, hmul⟩ := updatedBorrowIndex_factor hrate hsupply hvi
    by_cases hclock : reserve.lastUpdateTimestamp = uint40 now
    · rw [if_pos hclock] at halike ⊢
      have hnow : now = reserve.lastUpdateTimestamp := halike.resolve_right hrate
      rw [← hnow, calculateCompoundedInterest_self] at hfactor
      obtain rfl := Except.ok.inj hfactor
      rw [rayMul_RAY hmul]
      rfl
    · rw [if_neg hclock, hfactor, ok_bind]
      exact hmul

/-- Depositors earn, or the reserve was updated in this second. -/
def Accruing (reserve : ReserveData) (now : Nat) : Prop :=
  reserve.currentLiquidityRate ≠ 0 ∨ reserve.lastUpdateTimestamp = uint40 now

theorem Accruing.alike (h : Accruing reserve now) (hslot : now < 2 ^ 40) :
    AccruesAlike reserve now := by
  unfold AccruesAlike
  by_cases hclock : reserve.lastUpdateTimestamp = uint40 now
  · rw [if_pos hclock, hclock]
    exact .inl (Nat.mod_eq_of_lt hslot).symm
  · rw [if_neg hclock]
    exact .inl (h.resolve_right hclock)

theorem Accruing.debt_eq (h : Accruing reserve now) (hslot : now < 2 ^ 40)
    (hlisted : reserve.Listed asset) (hsupply : supply ≠ 0)
    (hvi : updatedBorrowIndex reserve supply now = .ok vi) :
    getNormalizedDebt reserve now = .ok vi := by
  apply debt_of_alike hlisted _ hsupply hvi (h.alike hslot)
  intro hrate
  rw [h.resolve_left fun hne => hne hrate]
  exact Nat.mod_le _ _

theorem income_of_slot {index : Nat} (hlisted : reserve.Listed asset) (hslot : now < 2 ^ 40)
    (hincome : getNormalizedIncome reserve now = .ok index)
    (hli : updatedLiquidityIndex reserve now = .ok li) : index = li := by
  by_cases hrate : reserve.currentLiquidityRate = 0
  · rw [updatedLiquidityIndex_idle hrate hli]
    unfold getNormalizedIncome at hincome
    by_cases hclock : reserve.lastUpdateTimestamp = uint40 now
    · rw [if_pos hclock, pure_eq_ok] at hincome
      exact hincome.symm
    · rw [if_neg hclock, hrate] at hincome
      obtain ⟨factor, hfactor, hmul⟩ := bind_eq_ok.mp hincome
      obtain ⟨-, -, -, rfl⟩ := calculateLinearInterest_eq_ok.mp hfactor
      rw [Nat.zero_mul, Nat.zero_div, Nat.zero_add] at hmul
      exact rayMul_RAY hmul
  · have haccruing : Accruing reserve now := .inl hrate
    have hshown := income_of_alike hlisted (fun hzero => absurd hzero hrate) hli
      (haccruing.alike hslot)
    exact Except.ok.inj (hincome.symm.trans hshown)

theorem borrowAmount_shown {s : State} {nftAsset : Address} {nftTokenId : Nat}
    {cTokens : Address → CToken}
    (hs : Reachable operations s) (hslot : s.timestamp < 2 ^ 40)
    (hid : s.loanStore.nftToLoanIds nftAsset nftTokenId ≠ 0)
    (hasset : (s.loanOf nftAsset nftTokenId).reserveAsset = asset)
    (haccruing : Accruing (s.pool.reserves asset) s.timestamp)
    (ha : Accrual s asset li vi cTokens) :
    LendPoolLoan.borrowAmount (s.accrued asset li vi cTokens) (s.loanOf nftAsset nftTokenId) =
      LendPoolLoan.borrowAmount s (s.loanOf nftAsset nftTokenId) := by
  by_cases hunits : (s.loanOf nftAsset nftTokenId).scaledAmount = 0
  · unfold LendPoolLoan.borrowAmount
    rw [if_pos hunits, if_pos hunits]
  · have hsupply : (s.debtTokens asset).scaledTotalSupply ≠ 0 := by
      have hle := ((solvent_of_reachable hs).scaledAmount_le hid).2
      rw [hasset] at hle
      change (s.debtTokens asset).ledger.totalSupply ≠ 0
      omega
    have hview : ShowsDebtIndex s asset vi :=
      haccruing.debt_eq hslot ha.listed hsupply ha.variableBorrowIndex
    rw [borrowAmount_accrued _ hasset, hview.borrowAmount hasset]

/-- Beyond forty bits of time the depositors' index has moved if they earn at all. -/
private theorem income_of_wrapped (hlisted : reserve.Listed asset)
    (hclock : reserve.lastUpdateTimestamp = uint40 now) (hrate : reserve.currentLiquidityRate ≠ 0)
    (hnow : now ≠ reserve.lastUpdateTimestamp) (hli : updatedLiquidityIndex reserve now = .ok li) :
    getNormalizedIncome reserve now ≠ .ok li := by
  intro hview
  obtain ⟨factor, hfactor, hmul⟩ := updatedLiquidityIndex_factor hrate hli
  have hperiod : 2 ^ 40 ≤ now - reserve.lastUpdateTimestamp := by
    unfold uint40 at hclock
    omega
  have hgain : SECONDS_PER_YEAR ≤
      reserve.currentLiquidityRate * (now - reserve.lastUpdateTimestamp) := by
    have hone : 1 * 2 ^ 40 ≤
        reserve.currentLiquidityRate * (now - reserve.lastUpdateTimestamp) :=
      Nat.mul_le_mul (by omega) hperiod
    exact le_trans (by decide) hone
  have hlt := lt_rayMul (RAY_lt_linearInterest hgain hfactor) hlisted.RAY_le_liquidityIndex hmul
  unfold getNormalizedIncome at hview
  rw [if_pos hclock, pure_eq_ok] at hview
  omega

/-- A view that shows the stored debt index does so because the debt cannot grow. -/
private theorem cheap_of_idle (hlisted : reserve.Listed asset)
    (hclock : reserve.lastUpdateTimestamp ≠ uint40 now)
    (hlt : reserve.lastUpdateTimestamp < now)
    (hview : getNormalizedDebt reserve now = .ok reserve.variableBorrowIndex) :
    reserve.currentVariableBorrowRate < SECONDS_PER_YEAR ∧
      CoefficientsFit (now - reserve.lastUpdateTimestamp) := by
  unfold getNormalizedDebt at hview
  rw [if_neg hclock] at hview
  obtain ⟨factor, hfactor, hmul⟩ := bind_eq_ok.mp hview
  refine ⟨?_, coefficientsFit_of_ok hfactor⟩
  by_contra hrate
  have hgrown := lt_rayMul (RAY_lt_compoundedInterest (Nat.le_of_not_lt hrate) hlt hfactor)
    hlisted.RAY_le_variableBorrowIndex hmul
  exact Nat.lt_irrefl _ hgrown

theorem alike_of_views (hlisted : reserve.Listed asset)
    (hslot : reserve.lastUpdateTimestamp < 2 ^ 40) (hle : reserve.lastUpdateTimestamp ≤ now)
    (hli : updatedLiquidityIndex reserve now = .ok li)
    (hvi : updatedBorrowIndex reserve supply now = .ok vi)
    (hincome : getNormalizedIncome reserve now = .ok li)
    (hdebt : getNormalizedDebt reserve now = .ok vi) : AccruesAlike reserve now := by
  unfold AccruesAlike
  by_cases hclock : reserve.lastUpdateTimestamp = uint40 now
  · rw [if_pos hclock]
    by_contra hneither
    obtain ⟨hnow, hrate⟩ := not_or.mp hneither
    exact income_of_wrapped hlisted hclock hrate hnow hli hincome
  · rw [if_neg hclock]
    by_cases hrate : reserve.currentLiquidityRate = 0
    · have hlt : reserve.lastUpdateTimestamp < now := by
        unfold uint40 at hclock
        omega
      rw [updatedBorrowIndex_idle hrate hvi] at hdebt
      exact .inr (cheap_of_idle hlisted hclock hlt hdebt)
    · exact .inl hrate

end Indexes

end Confetti
