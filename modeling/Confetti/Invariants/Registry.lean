import Confetti.Invariants.Ledger

/-! The ids and the counters of the loan book: every loan carries its own id, and the
counters of a collection count the live loans against it. -/
namespace Confetti
open Outcome TransitionSystem FiniteLedger

def LoanData.backs (nftAsset : Address) (loan : LoanData) : Nat :=
  spot (loan.state.isLive = true ∧ nftAsset = loan.nftAsset) 1

def LoanData.backsFor (user nftAsset : Address) (loan : LoanData) : Nat :=
  spot (loan.state.isLive = true ∧ user = loan.borrower ∧ nftAsset = loan.nftAsset) 1

structure Counted (s : State) : Prop where
  numbered : ∀ loanId, (s.loanStore.loans loanId).state ≠ .None → loanId ≠ 0 ∧
    loanId < s.loanStore.loanIdTracker ∧ (s.loanStore.loans loanId).loanId = loanId
  total : ∀ nftAsset, s.loanStore.nftTotalCollateral nftAsset =
    s.sumLoans (LoanData.backs nftAsset)
  user : ∀ user nftAsset, s.loanStore.userNftCollateral user nftAsset =
    s.sumLoans (LoanData.backsFor user nftAsset)

variable {s s' : State} {operation : Operation} {loanId : Nat} {loan : LoanData}
  {user nftAsset : Address}

section Measures

theorem backs_of_live (hlive : loan.state.isLive = true) :
    loan.backs nftAsset = if nftAsset = loan.nftAsset then 1 else 0 := by
  unfold LoanData.backs spot
  simp only [hlive, true_and]

theorem backs_of_dead (hdead : loan.state.isLive = false) : loan.backs nftAsset = 0 := by
  unfold LoanData.backs spot
  simp [hdead]

theorem backsFor_of_live (hlive : loan.state.isLive = true) :
    loan.backsFor user nftAsset =
      if user = loan.borrower ∧ nftAsset = loan.nftAsset then 1 else 0 := by
  unfold LoanData.backsFor spot
  simp only [hlive, true_and]

theorem backsFor_of_dead (hdead : loan.state.isLive = false) :
    loan.backsFor user nftAsset = 0 := by
  unfold LoanData.backsFor spot
  simp [hdead]

end Measures

theorem ne_none_of_live (hlive : loan.state.isLive = true) : loan.state ≠ .None := by
  intro hnone
  rw [hnone] at hlive
  cases hlive

/-! ### The three ways the book changes -/

theorem Counted.congr (h : Counted s) (hloan : s'.loanStore = s.loanStore) : Counted s' where
  numbered := by
    rw [hloan]
    exact h.numbered
  total := by
    intro nftAsset
    rw [hloan, sumLoans_congr _ hloan]
    exact h.total nftAsset
  user := by
    intro user nftAsset
    rw [hloan, sumLoans_congr _ hloan]
    exact h.user user nftAsset

theorem Counted.of_opened (h : Counted s) (hb : BookValid s) (hactive : loan.state = .Active)
    (hid : loan.loanId = s.loanStore.loanIdTracker) (hopened : LoanOpened s loan s') :
    Counted s' := by
  have hlive : loan.state.isLive = true := by
    rw [hactive]
    rfl
  refine ⟨?_, ?_, ?_⟩
  · intro loanId hexists
    rw [hopened.loanStore, LoanStore.opened_loans] at hexists ⊢
    rw [LoanStore.opened_loanIdTracker]
    by_cases hnew : loanId = s.loanStore.loanIdTracker
    · subst hnew
      rw [Function.update_self]
      exact ⟨Nat.ne_of_gt hb.tracker_pos, Nat.lt_succ_self _, hid⟩
    · rw [Function.update_of_ne hnew] at hexists ⊢
      obtain ⟨hne, hlt, hnumber⟩ := h.numbered loanId hexists
      exact ⟨hne, Nat.lt_succ_of_lt hlt, hnumber⟩
  · intro nftAsset
    have hsum := sumLoans_opened (LoanData.backs nftAsset) hopened
    rw [hsum, hopened.loanStore, LoanStore.opened_nftTotalCollateral, backs_of_live hlive,
      ← h.total]
    by_cases hasset : nftAsset = loan.nftAsset
    · rw [if_pos hasset, if_pos hasset, hasset]
    · rw [if_neg hasset, if_neg hasset]
      rfl
  · intro user nftAsset
    have hsum := sumLoans_opened (LoanData.backsFor user nftAsset) hopened
    rw [hsum, hopened.loanStore, LoanStore.opened_userNftCollateral, backsFor_of_live hlive,
      ← h.user]
    by_cases hboth : user = loan.borrower ∧ nftAsset = loan.nftAsset
    · rw [if_pos hboth, if_pos hboth, hboth.1, hboth.2]
    · rw [if_neg hboth, if_neg hboth]
      rfl

private theorem Counted.numbered_update (h : Counted s)
    (hold : (s.loanStore.loans loanId).state.isLive = true)
    (hsame : SameDeal (s.loanStore.loans loanId) loan) (other : Nat)
    (hexists : (Function.update s.loanStore.loans loanId loan other).state ≠ .None) :
    other ≠ 0 ∧ other < s.loanStore.loanIdTracker ∧
      (Function.update s.loanStore.loans loanId loan other).loanId = other := by
  by_cases hother : other = loanId
  · subst hother
    rw [Function.update_self, hsame.loanId]
    exact h.numbered other (ne_none_of_live hold)
  · rw [Function.update_of_ne hother] at hexists ⊢
    exact h.numbered other hexists

theorem Counted.of_replaced (h : Counted s) (hb : BookValid s)
    (hold : (s.loanStore.loans loanId).state.isLive = true) (hlive : loan.state.isLive = true)
    (hsame : SameDeal (s.loanStore.loans loanId) loan)
    (hreplaced : LoanReplaced s loanId loan s') : Counted s' := by
  have hlt := hb.lt_tracker hold
  refine ⟨?_, ?_, ?_⟩
  · intro other hexists
    rw [hreplaced.loanStore, LoanStore.withLoan_loans] at hexists ⊢
    rw [LoanStore.withLoan_loanIdTracker]
    exact h.numbered_update hold hsame other hexists
  · intro nftAsset
    have hsum := sumLoans_replaced (LoanData.backs nftAsset) hlt hreplaced
    have htotal := h.total nftAsset
    rw [backs_of_live hold, backs_of_live hlive, hsame.nftAsset] at hsum
    rw [hreplaced.loanStore, LoanStore.withLoan_nftTotalCollateral]
    omega
  · intro user nftAsset
    have hsum := sumLoans_replaced (LoanData.backsFor user nftAsset) hlt hreplaced
    have huser := h.user user nftAsset
    rw [backsFor_of_live hold, backsFor_of_live hlive, hsame.nftAsset, hsame.borrower] at hsum
    rw [hreplaced.loanStore, LoanStore.withLoan_userNftCollateral]
    omega

theorem Counted.of_closed {ended : LoanData} {receiver : Address} (h : Counted s)
    (hb : BookValid s) (hold : (s.loanStore.loans loanId).state.isLive = true)
    (hdead : ended.state.isLive = false) (hsame : SameDeal (s.loanStore.loans loanId) ended)
    (hclosed : LoanClosed s loanId ended receiver s') : Counted s' := by
  have hlt := hb.lt_tracker hold
  obtain ⟨huser, htotal, -⟩ := hclosed.releasable
  refine ⟨?_, ?_, ?_⟩
  · intro other hexists
    rw [hclosed.loanStore, LoanStore.closed_loans] at hexists ⊢
    rw [LoanStore.closed_loanIdTracker]
    exact h.numbered_update hold hsame other hexists
  · intro nftAsset
    have hsum := sumLoans_closed (LoanData.backs nftAsset) hlt hclosed
    have hbefore := h.total nftAsset
    rw [backs_of_live hold, backs_of_dead hdead, ← hsame.nftAsset] at hsum
    rw [hclosed.loanStore, LoanStore.closed_nftTotalCollateral]
    by_cases hasset : nftAsset = ended.nftAsset
    · rw [if_pos hasset] at hsum ⊢
      rw [← hasset]
      omega
    · rw [if_neg hasset] at hsum ⊢
      omega
  · intro user nftAsset
    have hsum := sumLoans_closed (LoanData.backsFor user nftAsset) hlt hclosed
    have hbefore := h.user user nftAsset
    rw [backsFor_of_live hold, backsFor_of_dead hdead, ← hsame.nftAsset, ← hsame.borrower] at hsum
    rw [hclosed.loanStore, LoanStore.closed_userNftCollateral]
    by_cases hboth : user = ended.borrower ∧ nftAsset = ended.nftAsset
    · rw [if_pos hboth] at hsum ⊢
      rw [← hboth.1, ← hboth.2]
      omega
    · rw [if_neg hboth] at hsum ⊢
      omega

theorem Counted.of_change (h : Counted s) (hb : BookValid s) (hchange : BookChange s s') :
    Counted s' := by
  cases hchange with
  | unchanged hsame => exact h.congr hsame.loanStore
  | opened hactive hid _ hopened => exact h.of_opened hb hactive hid hopened
  | replaced hreg hreplaced hlive _ hsame =>
    exact h.of_replaced hb (hb.registered_live hreg) hlive hsame hreplaced
  | closed hreg hclosed hdead hsame =>
    exact h.of_closed hb (hb.registered_live hreg) hdead hsame hclosed

theorem Genesis.counted (h : Genesis s) : Counted s where
  numbered := by
    intro loanId hexists
    rw [h.loanStore] at hexists
    exact absurd rfl hexists
  total := by
    intro nftAsset
    rw [h.sumLoans _ rfl, h.loanStore]
    rfl
  user := by
    intro user nftAsset
    rw [h.sumLoans _ rfl, h.loanStore]
    rfl

theorem counted_of_reachable (h : Reachable operations s) : Counted s := by
  apply h.invariant
  · exact fun s hs => Genesis.counted hs
  · intro s operation s' hs hcounted hstep
    have hreg := regular_of_reachable hs
    rcases hreg.cases hstep with haction | ⟨-, hkept⟩
    · exact hcounted.of_change hreg.book haction.bookChange
    · exact hcounted.congr hkept.loanStore

/-! ### What follows for one live loan -/

theorem Counted.total_pos (h : Counted s) (hb : BookValid s)
    (hlive : (s.loanStore.loans loanId).state.isLive = true) :
    1 ≤ s.loanStore.nftTotalCollateral (s.loanStore.loans loanId).nftAsset := by
  have hle := le_sumLoans (LoanData.backs (s.loanStore.loans loanId).nftAsset)
    (hb.lt_tracker hlive)
  rw [backs_of_live hlive, if_pos rfl] at hle
  rw [h.total]
  exact hle

theorem Counted.user_pos (h : Counted s) (hb : BookValid s)
    (hlive : (s.loanStore.loans loanId).state.isLive = true) :
    1 ≤ s.loanStore.userNftCollateral (s.loanStore.loans loanId).borrower
      (s.loanStore.loans loanId).nftAsset := by
  have hle := le_sumLoans (LoanData.backsFor (s.loanStore.loans loanId).borrower
    (s.loanStore.loans loanId).nftAsset) (hb.lt_tracker hlive)
  rw [backsFor_of_live hlive, if_pos ⟨rfl, rfl⟩] at hle
  rw [h.user]
  exact hle

theorem Counted.releasable (h : Counted s) (hb : BookValid s)
    (hlive : (s.loanStore.loans loanId).state.isLive = true) :
    LendPoolLoan.Releasable s (s.loanStore.loans loanId) := by
  have hcustody := hb.custody loanId hlive
  refine ⟨h.user_pos hb hlive, h.total_pos hb hlive, ?_, hcustody.minter, hcustody.owner⟩
  rw [hcustody.receipt]
  exact hcustody.borrower_ne

theorem BookChange.deal (hb : BookValid s) (h : BookChange s s')
    (hexists : (s.loanStore.loans loanId).state ≠ .None) :
    SameDeal (s.loanStore.loans loanId) (s'.loanStore.loans loanId) ∧
      ((s.loanStore.loans loanId).state.isLive = false →
        s'.loanStore.loans loanId = s.loanStore.loans loanId) := by
  have hkept : s'.loanStore.loans loanId = s.loanStore.loans loanId →
      SameDeal (s.loanStore.loans loanId) (s'.loanStore.loans loanId) ∧
        ((s.loanStore.loans loanId).state.isLive = false →
          s'.loanStore.loans loanId = s.loanStore.loans loanId) := by
    intro heq
    rw [heq]
    exact ⟨⟨rfl, rfl, rfl, rfl, rfl⟩, fun _ => rfl⟩
  cases h with
  | unchanged h =>
    apply hkept
    rw [h.loanStore]
  | opened _ _ _ h =>
    apply hkept
    have hne : loanId ≠ s.loanStore.loanIdTracker := by
      intro hnew
      rw [hb.fresh loanId (Nat.le_of_eq hnew.symm)] at hexists
      exact hexists rfl
    rw [h.loanStore, LoanStore.opened_loans, Function.update_of_ne hne]
  | @replaced nftAsset nftTokenId loan hreg h _ _ hsame =>
    by_cases hloan : loanId = s.loanStore.nftToLoanIds nftAsset nftTokenId
    · subst hloan
      rw [h.loanStore, LoanStore.withLoan_loans, Function.update_self, hb.registered_live hreg]
      exact ⟨hsame, fun hdead => by cases hdead⟩
    · apply hkept
      rw [h.loanStore, LoanStore.withLoan_loans, Function.update_of_ne hloan]
  | @closed nftAsset receiver nftTokenId ended hreg h _ hsame =>
    by_cases hloan : loanId = s.loanStore.nftToLoanIds nftAsset nftTokenId
    · subst hloan
      rw [h.loanStore, LoanStore.closed_loans, Function.update_self, hb.registered_live hreg]
      exact ⟨hsame, fun hdead => by cases hdead⟩
    · apply hkept
      rw [h.loanStore, LoanStore.closed_loans, Function.update_of_ne hloan]

theorem PoolAction.live_origin (hb : BookValid s) (h : PoolAction s operation s')
    (hlive : (s'.loanStore.loans loanId).state.isLive = true) :
    ((s.loanStore.loans loanId).state.isLive = true ∧
      SameDeal (s.loanStore.loans loanId) (s'.loanStore.loans loanId)) ∨
    ∃ p n li vi scaled, p.initiator = .account n ∧ BorrowEffect s p s' li vi scaled ∧
      s'.loanStore.loans loanId = borrowedLoan s p scaled := by
  by_cases hold : (s.loanStore.loans loanId).state.isLive = true
  · exact .inl ⟨hold, (h.bookChange.deal hb (ne_none_of_live hold)).1⟩
  · have hchanged : s'.loanStore.loans loanId ≠ s.loanStore.loans loanId := by
      intro heq
      rw [heq] at hlive
      exact hold hlive
    have hother : ∀ {nftAsset : Address} {nftTokenId : Nat},
        s.loanStore.nftToLoanIds nftAsset nftTokenId ≠ 0 →
          loanId ≠ s.loanStore.nftToLoanIds nftAsset nftTokenId := by
      rintro nftAsset nftTokenId hreg rfl
      exact hold (hb.registered_live hreg)
    cases hchange : h with
    | borrow _ hn hborrow =>
      rcases hborrow.book with hopened | htopped
      · have hnew : loanId = s.loanStore.loanIdTracker := by
          by_contra hne
          apply hchanged
          rw [hopened.loanStore, LoanStore.opened_loans, Function.update_of_ne hne]
        refine .inr ⟨_, _, _, _, _, hn, hborrow, ?_⟩
        rw [hopened.loanStore, LoanStore.opened_loans, hnew, Function.update_self]
      · apply absurd _ hchanged
        rw [htopped.replaced.loanStore, LoanStore.withLoan_loans,
          Function.update_of_ne (hother htopped.registered)]
    | deposit _ h => exact absurd (by rw [h.book.loanStore]) hchanged
    | withdraw _ h => exact absurd (by rw [h.book.loanStore]) hchanged
    | repay _ _ h =>
      apply absurd _ hchanged
      rcases h.book with ⟨-, -, hpartly⟩ | ⟨-, hclosed⟩
      · rw [hpartly.loanStore, LoanStore.withLoan_loans,
          Function.update_of_ne (hother h.registered)]
      · rw [hclosed.loanStore, LoanStore.closed_loans, Function.update_of_ne (hother h.registered)]
    | buyItNow _ _ h =>
      apply absurd _ hchanged
      rw [h.replaced.loanStore, LoanStore.withLoan_loans,
        Function.update_of_ne (hother h.registered)]
    | redeem _ _ h hs =>
      apply absurd _ hchanged
      rw [hs, h.replaced.loanStore, LoanStore.withLoan_loans,
        Function.update_of_ne (hother h.registered)]
    | liquidate _ _ h hs =>
      apply absurd _ hchanged
      rw [hs, h.closed.loanStore, LoanStore.closed_loans,
        Function.update_of_ne (hother h.registered)]

theorem PoolAction.sale_origin (h : PoolAction s operation s')
    (hsale : (s'.loanStore.loans loanId).state = .BuyItNow) :
    s'.loanStore.loans loanId = s.loanStore.loans loanId ∨
      ∃ n p li vi debt threshold liquidate, operation = .user (.ofBuyItNow n p) ∧
        BuyItNowEffect s p (s.loanOf p.nftAsset p.nftTokenId) s' li vi debt threshold liquidate ∧
          loanId = s.loanStore.nftToLoanIds p.nftAsset p.nftTokenId ∧
            s'.loanStore.loans loanId = offeredLoan s p (s.loanOf p.nftAsset p.nftTokenId) debt := by
  -- a record other than an offer leaves the sale, so the loan is another one
  have hwritten : ∀ {loan : LoanData} {other : Nat},
      s'.loanStore.loans = Function.update s.loanStore.loans other loan →
        loan.state ≠ .BuyItNow → s'.loanStore.loans loanId = s.loanStore.loans loanId := by
    intro loan other hloans hnot
    rw [hloans] at hsale ⊢
    apply Function.update_of_ne
    rintro rfl
    rw [Function.update_self] at hsale
    exact hnot hsale
  have hactive : ∀ {loan : LoanData}, loan.state = .Active → loan.state ≠ .BuyItNow := by
    intro loan hactive hsale
    rw [hactive] at hsale
    cases hsale
  cases h with
  | deposit _ h =>
    rw [h.book.loanStore]
    exact .inl rfl
  | withdraw _ h =>
    rw [h.book.loanStore]
    exact .inl rfl
  | borrow _ _ h =>
    rcases h.book with hopened | htopped
    · exact .inl (hwritten (congrArg LoanStore.loans hopened.loanStore) (hactive rfl))
    · exact .inl (hwritten (congrArg LoanStore.loans htopped.replaced.loanStore)
        (hactive htopped.active))
  | repay _ _ h =>
    rcases h.book with ⟨-, -, hpartly⟩ | ⟨-, hclosed⟩
    · exact .inl (hwritten (congrArg LoanStore.loans hpartly.loanStore) (hactive h.active))
    · exact .inl (hwritten (congrArg LoanStore.loans hclosed.loanStore) fun hsale => by cases hsale)
  | @buyItNow p n li vi debt threshold liquidate hcall _ h =>
    have hloans : s'.loanStore.loans = Function.update s.loanStore.loans
        (s.loanStore.nftToLoanIds p.nftAsset p.nftTokenId)
          (offeredLoan s p (s.loanOf p.nftAsset p.nftTokenId) debt) :=
      congrArg LoanStore.loans h.replaced.loanStore
    rw [hloans]
    by_cases heq : loanId = s.loanStore.nftToLoanIds p.nftAsset p.nftTokenId
    · refine .inr ⟨n, p, li, vi, debt, threshold, liquidate, hcall, h, heq, ?_⟩
      rw [heq, Function.update_self]
    · exact .inl (Function.update_of_ne heq _ _)
  | redeem _ _ h hs =>
    rw [hs] at hwritten ⊢
    exact .inl (hwritten (congrArg LoanStore.loans h.replaced.loanStore) (hactive rfl))
  | liquidate _ _ h hs =>
    rw [hs] at hwritten ⊢
    exact .inl (hwritten (congrArg LoanStore.loans h.closed.loanStore) fun hsale => by cases hsale)

end Confetti
