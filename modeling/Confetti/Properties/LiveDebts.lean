import Confetti.Invariants.Book
import Confetti.Protocol.Deployment

/-! Whether a live loan still owes something. Whether a payment is partial is decided on
amounts, but what it takes off is rounded to the nearest scaled unit: a payment of less
than the debt can take all of it. -/
namespace Confetti
open Outcome TransitionSystem HalfUp ReserveLogic

/-- What a loan owes at an index after a payment is not nothing: the payment stays half a
scaled unit below the loan. -/
def DebtRemains (loan : LoanData) (amount vi : Nat) : Prop :=
  amount * RAY + vi / 2 < loan.scaledAmount * vi

/-- A payment on a loan; one on a loan that is not on sale may end it. -/
structure Payment where
  nftAsset : Address
  nftTokenId : Nat
  amount : Nat
  mayEnd : Bool

def Operation.payment : Operation → Option Payment
  | .user (.repay _ nftAsset nftTokenId amount) => some ⟨nftAsset, nftTokenId, amount, true⟩
  | .user (.redeem _ nftAsset nftTokenId amount _) => some ⟨nftAsset, nftTokenId, amount, false⟩
  | _ => none

/-- A payment of less than the debt, or one that cannot end the loan, leaves some of it. -/
def Payment.LeavesDebt (s : State) (p : Payment) : Prop :=
  ∀ vi, s.nextBorrowIndex (s.loanOf p.nftAsset p.nftTokenId).reserveAsset = .ok vi →
    ∀ debt, rayMul (s.loanOf p.nftAsset p.nftTokenId).scaledAmount vi = .ok debt →
      (p.mayEnd = true → p.amount < debt) →
        DebtRemains (s.loanOf p.nftAsset p.nftTokenId) p.amount vi

def LeavesDebt (t : Transition State Operation) : Prop :=
  ∀ p ∈ t.label.payment, p.LeavesDebt t.pre

instance (loan : LoanData) (amount vi : Nat) : Decidable (DebtRemains loan amount vi) :=
  inferInstanceAs (Decidable (_ < _))

instance (s : State) (p : Payment) : Decidable (p.LeavesDebt s) :=
  inferInstanceAs (Decidable (∀ vi, _ = Except.ok vi → ∀ debt, _ = Except.ok debt →
    (p.mayEnd = true → p.amount < debt) → DebtRemains _ p.amount vi))

instance (t : Transition State Operation) : Decidable (LeavesDebt t) :=
  inferInstanceAs (Decidable (∀ p ∈ t.label.payment, p.LeavesDebt t.pre))

/-- Every live loan owes something, is shown to, and can be repaid. -/
structure LiveDebts (s : State) : Prop where
  scaled : ∀ loanId, (s.loanStore.loans loanId).state.isLive = true →
    0 < (s.loanStore.loans loanId).scaledAmount
  amount : ∀ loanId, (s.loanStore.loans loanId).state.isLive = true → ∀ shown,
    LendPoolLoan.getLoanReserveBorrowAmount s loanId = .ok shown → 0 < shown.2
  repayable : ∀ loanId, (s.loanStore.loans loanId).state.isLive = true →
    ∀ s₁ charged reserveData nftData amountSent,
      updateState s (s.loanStore.loans loanId).reserveAsset = .ok s₁ →
        LendPoolLoan.getLoanReserveBorrowAmount s₁ loanId = .ok charged →
          ValidationLogic.validateRepay reserveData nftData (s.loanStore.loans loanId) amountSent
            charged.2 ≠ .error (.error .VL_NO_DEBT_OF_SELECTED_TYPE)

def AllOwed (s : State) : Prop :=
  ∀ loanId, (s.loanStore.loans loanId).state.isLive = true →
    0 < (s.loanStore.loans loanId).scaledAmount

variable {s s' : State} {operation : Operation} {loanId : Nat}

/-! ### One step -/

theorem AllOwed.of_same (h : AllOwed s) (hloan : s'.loanStore = s.loanStore) : AllOwed s' := by
  unfold AllOwed
  rw [hloan]
  exact h

theorem AllOwed.replaced_iff {loan : LoanData} (h : AllOwed s)
    (hreplaced : LoanReplaced s loanId loan s') (hlive : loan.state.isLive = true) :
    AllOwed s' ↔ 0 < loan.scaledAmount := by
  unfold AllOwed
  rw [hreplaced.loanStore, LoanStore.withLoan_loans]
  constructor
  · intro hall
    have hone := hall loanId
    rw [Function.update_self] at hone
    exact hone hlive
  · intro hpos other
    by_cases hother : other = loanId
    · subst hother
      rw [Function.update_self]
      exact fun _ => hpos
    · rw [Function.update_of_ne hother]
      exact h other

theorem AllOwed.of_closed {ended : LoanData} {receiver : Address} (h : AllOwed s)
    (hclosed : LoanClosed s loanId ended receiver s') (hdead : ended.state.isLive = false) :
    AllOwed s' := by
  intro other
  rw [hclosed.loanStore, LoanStore.closed_loans]
  by_cases hother : other = loanId
  · subst hother
    rw [Function.update_self, hdead]
    exact fun hlive => by cases hlive
  · rw [Function.update_of_ne hother]
    exact h other

theorem AllOwed.of_opened {loan : LoanData} (h : AllOwed s) (hopened : LoanOpened s loan s')
    (hpos : 0 < loan.scaledAmount) : AllOwed s' := by
  intro other
  rw [hopened.loanStore, LoanStore.opened_loans]
  by_cases hnew : other = s.loanStore.loanIdTracker
  · subst hnew
    rw [Function.update_self]
    exact fun _ => hpos
  · rw [Function.update_of_ne hnew]
    exact h other

/-- A payment leaves something exactly if it scales down to less than the loan. -/
theorem remains_iff {loan : LoanData} {amount vi scaled : Nat}
    (hscaled : rayDiv amount vi = .ok scaled) :
    0 < loan.scaledAmount - scaled ↔ DebtRemains loan amount vi := by
  obtain ⟨hne, -, rfl⟩ := rayDiv_eq_ok.mp hscaled
  unfold DebtRemains
  rw [Nat.sub_pos_iff_lt, halfUp_lt_iff (Nat.pos_of_ne_zero hne)]

theorem leavesDebt_payment {t : Transition State Operation} {p : Payment}
    (h : t.label.payment = some p) : LeavesDebt t ↔ p.LeavesDebt t.pre := by
  unfold LeavesDebt
  rw [h]
  simp

theorem leavesDebt_iff {p : Payment} {vi debt : Nat}
    (hnext : s.nextBorrowIndex (s.loanOf p.nftAsset p.nftTokenId).reserveAsset = .ok vi)
    (hdebt : rayMul (s.loanOf p.nftAsset p.nftTokenId).scaledAmount vi = .ok debt) :
    p.LeavesDebt s ↔ ((p.mayEnd = true → p.amount < debt) →
      DebtRemains (s.loanOf p.nftAsset p.nftTokenId) p.amount vi) := by
  constructor
  · exact fun h => h vi hnext debt hdebt
  · intro h vi' hnext' debt' hdebt'
    obtain rfl := Except.ok.inj (hnext.symm.trans hnext')
    obtain rfl := Except.ok.inj (hdebt.symm.trans hdebt')
    exact h

/-- Anything but a payment takes off no debt. -/
theorem leavesDebt_of_none {t : Transition State Operation} (h : t.label.payment = none) :
    LeavesDebt t := by
  unfold LeavesDebt
  rw [h]
  simp

private theorem borrow_owed {p : ExecuteBorrowParams} {li vi scaled : Nat} (hb : BookValid s)
    (howed : AllOwed s) (h : BorrowEffect s p s' li vi scaled) : AllOwed s' := by
  have hpos : 0 < scaled := Nat.pos_of_ne_zero h.scaled_ne
  rcases h.book with hopened | htopped
  · exact howed.of_opened hopened hpos
  · apply (howed.replaced_iff htopped.replaced (hb.registered_live htopped.registered)).mpr
    exact Nat.add_pos_right _ hpos

private theorem repay_owed_iff {p : ExecuteRepayParams} {n li vi debt paid scaled : Nat}
    (howed : AllOwed s)
    (h : RepayEffect s p (s.loanOf p.nftAsset p.nftTokenId) s' li vi debt paid scaled) :
    AllOwed s' ↔ LeavesDebt ⟨s, .user (.ofRepay n p), s'⟩ := by
  have hlive : (s.loanOf p.nftAsset p.nftTokenId).state.isLive = true := by
    rw [h.active]
    rfl
  rcases h.book with ⟨hpart, -, hpartly⟩ | ⟨hfull, hclosed⟩
  · have hpaid : paid = p.amount := h.paid_eq.trans (Nat.min_eq_left hpart.le)
    have hscaled := h.scaled_eq
    rw [hpaid] at hscaled
    rw [howed.replaced_iff hpartly hlive]
    change 0 < (s.loanOf p.nftAsset p.nftTokenId).scaledAmount - scaled ↔ _
    rw [remains_iff hscaled]
    rw [leavesDebt_payment rfl, leavesDebt_iff h.step.next h.debt_eq]
    simp [hpart]
  · refine iff_of_true (howed.of_closed hclosed rfl) ?_
    rw [leavesDebt_payment rfl, leavesDebt_iff h.step.next h.debt_eq]
    exact fun hless => absurd hfull (Nat.not_le_of_lt (hless rfl))

private theorem redeem_owed_iff {p : ExecuteRedeemParams} {n li vi debt fine scaled lr vr : Nat}
    {cTokens : Address → CToken} {token : ERC20} (howed : AllOwed s)
    (h : Redemption s p (s.loanOf p.nftAsset p.nftTokenId) li vi cTokens debt fine scaled lr vr
      token) :
    AllOwed (afterRedemption s p (s.loanOf p.nftAsset p.nftTokenId) li vi cTokens fine scaled lr vr
      token) ↔ LeavesDebt ⟨s, .user (.ofRedeem n p), afterRedemption s p
        (s.loanOf p.nftAsset p.nftTokenId) li vi cTokens fine scaled lr vr token⟩ := by
  rw [howed.replaced_iff h.replaced rfl]
  change 0 < (s.loanOf p.nftAsset p.nftTokenId).scaledAmount - scaled ↔ _
  rw [remains_iff h.scaled_eq]
  rw [leavesDebt_payment rfl, leavesDebt_iff h.step.next h.debt_eq]
  simp

/-- An accepted step keeps every live loan in debt exactly if its payment leaves some. -/
theorem owed_step_iff (hreg : Regular s) (howed : AllOwed s) (hrun : operation.run s = .ok s') :
    AllOwed s' ↔ LeavesDebt ⟨s, operation, s'⟩ := by
  rcases hreg.cases hrun with haction | ⟨houtside, hkept⟩
  · cases haction with
    | deposit hcall h =>
      subst hcall
      exact iff_of_true (howed.of_same h.book.loanStore) (leavesDebt_of_none rfl)
    | withdraw hcall h =>
      subst hcall
      exact iff_of_true (howed.of_same h.book.loanStore) (leavesDebt_of_none rfl)
    | borrow hcall hn h =>
      subst hcall
      exact iff_of_true (borrow_owed hreg.book howed h) (leavesDebt_of_none rfl)
    | repay hcall hn h =>
      subst hcall
      exact repay_owed_iff howed h
    | buyItNow hcall hn h =>
      subst hcall
      have hpos := howed _ (hreg.book.registered_live h.registered)
      exact iff_of_true ((howed.replaced_iff h.replaced rfl).mpr hpos) (leavesDebt_of_none rfl)
    | redeem hcall hn h hs =>
      subst hcall hs
      exact redeem_owed_iff howed h
    | liquidate hcall hn h hs =>
      subst hcall hs
      exact iff_of_true (howed.of_closed h.closed rfl) (leavesDebt_of_none rfl)
  · refine iff_of_true (howed.of_same hkept.loanStore) ?_
    cases operation with
    | user call =>
      cases call <;> first
        | exact leavesDebt_of_none rfl
        | cases houtside
    | token call => exact leavesDebt_of_none rfl
    | admin call => exact leavesDebt_of_none rfl
    | world event => exact leavesDebt_of_none rfl

/-! ### What a scaled amount is worth -/

theorem RAY_le_normalizedDebt {asset : Address} {reserve : ReserveData} {now index : Nat}
    (hlisted : reserve.Listed asset) (h : getNormalizedDebt reserve now = .ok index) :
    RAY ≤ index := by
  simp only [getNormalizedDebt] at h
  split at h
  · exact hlisted.RAY_le_variableBorrowIndex.trans (Nat.le_of_eq (pure_eq_ok.mp h))
  · obtain ⟨factor, hfactor, hmul⟩ := bind_eq_ok.mp h
    exact hlisted.RAY_le_variableBorrowIndex.trans
      (le_rayMul (RAY_le_compoundedInterest hfactor) hmul)

theorem validateRepay_of_debt {reserveData : ReserveData} {nftData : NftData}
    {loanData : LoanData} {amountSent debt : Nat} (hdebt : 0 < debt) :
    ValidationLogic.validateRepay reserveData nftData loanData amountSent debt ≠
      .error (.error .VL_NO_DEBT_OF_SELECTED_TYPE) := by
  intro h
  simp only [ValidationLogic.validateRepay, ValidationLogic.validateActive, bind_eq_error,
    require_eq_error, require_eq_ok, Revert.error.injEq, reduceCtorEq, and_false, exists_false,
    exists_const, or_false, false_or, and_true] at h
  omega

theorem liveDebts_of_owed (hreg : Regular s) (howed : AllOwed s) : LiveDebts s := by
  refine ⟨howed, ?_, ?_⟩
  · intro loanId hlive shown hshown
    have hlisted := (hreg.sound.wired.reserve _).of_cToken (hreg.listed loanId hlive)
    have hamount := (LendPoolLoan.getLoanReserveBorrowAmount_eq_ok.mp hshown).2
    unfold LendPoolLoan.borrowAmount at hamount
    rw [if_neg (Nat.ne_of_gt (howed loanId hlive))] at hamount
    obtain ⟨index, hindex, hmul⟩ := bind_eq_ok.mp hamount
    exact rayMul_pos (RAY_le_normalizedDebt hlisted hindex) (howed loanId hlive) hmul
  · intro loanId hlive s₁ charged reserveData nftData amountSent hupdate hcharged
    obtain ⟨li, vi, cTokens, haccrual, rfl⟩ := (updateState_iff hreg.sound.wired).mp hupdate
    have hamount : LendPoolLoan.borrowAmount
        (s.accrued (s.loanStore.loans loanId).reserveAsset li vi cTokens)
        (s.loanStore.loans loanId) = .ok charged.2 :=
      (LendPoolLoan.getLoanReserveBorrowAmount_eq_ok.mp hcharged).2
    rw [borrowAmount_accrued _ rfl] at hamount
    exact validateRepay_of_debt (rayMul_pos haccrual.RAY_le (howed loanId hlive) hamount)

/-! ### Whole runs -/

variable {s₀ : State} {history : List (Transition State Operation)}

theorem Genesis.allOwed (h : Genesis s) : AllOwed s := by
  intro loanId hlive
  rw [h.loanStore] at hlive
  cases hlive

theorem allOwed_of_run (hs₀ : Genesis s₀) (hrun : Run operations s₀ history s)
    (hleaves : ∀ t ∈ history, LeavesDebt t) : AllOwed s := by
  induction hrun with
  | nil => exact hs₀.allOwed
  | @snoc m s' operation history hrun hstep ih =>
    have howed := ih fun t ht => hleaves t (List.mem_append_left _ ht)
    apply (owed_step_iff (regular_of_reachable (hrun.reachable (.initial hs₀))) howed hstep).mpr
    exact hleaves _ (List.mem_append_right _ (List.mem_singleton_self _))

/-- Every state of a run has live debts only exactly if every payment in it leaves some. -/
theorem live_debts_iff (hs₀ : Genesis s₀) (hrun : Run operations s₀ history s) :
    (∀ t ∈ history, LiveDebts t.post) ↔ ∀ t ∈ history, LeavesDebt t := by
  have hreach : Reachable operations s₀ := .initial hs₀
  induction hrun with
  | nil => simp
  | @snoc m s' operation history hrun hstep ih =>
    have hreg := regular_of_reachable (hrun.reachable hreach)
    have hone : AllOwed m → (LiveDebts s' ↔ LeavesDebt ⟨m, operation, s'⟩) := by
      intro howed
      rw [← owed_step_iff hreg howed hstep]
      exact ⟨fun h => h.scaled, liveDebts_of_owed (hreg.step hstep)⟩
    simp only [List.mem_append, List.mem_singleton, or_imp, forall_and, forall_eq]
    constructor
    · rintro ⟨hbefore, hlast⟩
      have hleaves := ih.mp hbefore
      exact ⟨hleaves, (hone (allOwed_of_run hs₀ hrun hleaves)).mp hlast⟩
    · rintro ⟨hleaves, hlast⟩
      exact ⟨ih.mpr hleaves, (hone (allOwed_of_run hs₀ hrun hleaves)).mpr hlast⟩

/-- A quarter of the debt is repaid after a day. -/
def partlyRepaid : List (Transition State Operation) :=
  trace operations sampleWorld (sampleLending ++ [.world (.tick 86400),
    .user (.repay 2 sampleMarket.nftAsset 7 (10 * 10 ^ 18))])

theorem live_debts_partly_repaid : partlyRepaid ≠ [] ∧ ∀ t ∈ partlyRepaid, LiveDebts t.post := by
  have hrun : Run operations sampleWorld partlyRepaid _ := trace_run _ _
  refine ⟨fun h => ?_, ?_⟩
  · have hnone : partlyRepaid.isEmpty = true := List.isEmpty_iff.mpr h
    revert hnone
    decide +kernel
  · exact (live_debts_iff (State.fresh_genesis (by decide) _ _ _) hrun).mpr (by decide +kernel)

/-- A loan of one unit has grown to two after five years; one of them is repaid. -/
def dustRepaid : State :=
  replayed operations sampleWorld (sampleMarket.lending 1 ++ [.world (.tick (5 * 365 * 86400)),
    .user (.repay 2 sampleMarket.nftAsset 7 1)])

/-- The loan stays active with nothing to repay, and its NFT stays locked. -/
theorem dust_loan_stuck :
    (¬∀ s, Reachable operations s → LiveDebts s) ∧
      (dustRepaid.loanOf sampleMarket.nftAsset 7).state = .Active ∧
        fault (LendPool.repay dustRepaid (.account 2) sampleMarket.nftAsset 7 1) =
          some (.error .VL_NO_DEBT_OF_SELECTED_TYPE) := by
  refine ⟨fun h => ?_, by decide +kernel, by decide +kernel⟩
  have hlive := h dustRepaid (fresh_reachable (by decide) _ _ _ _)
  have hempty := hlive.scaled 1 (by decide +kernel)
  revert hempty
  decide +kernel

end Confetti
