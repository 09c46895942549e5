import Confetti.Invariants.Batches

/-! The two ledgers of debt, the loan book and the debt tokens, agree in every reachable
state. -/
namespace Confetti
open Outcome TransitionSystem FiniteLedger

def spot (here : Prop) [Decidable here] (amount : Nat) : Nat := if here then amount else 0

def LoanData.openAmount (loan : LoanData) : Nat :=
  if loan.state.isLive = true then loan.scaledAmount else 0

def LoanData.owed (asset user : Address) (loan : LoanData) : Nat :=
  spot (asset = loan.reserveAsset ∧ user = loan.borrower) loan.openAmount

def LoanData.owedTotal (asset : Address) (loan : LoanData) : Nat :=
  spot (asset = loan.reserveAsset) loan.openAmount

def State.loanIds (s : State) : Finset Nat := Finset.range s.loanStore.loanIdTracker

def State.sumLoans (s : State) (measure : LoanData → Nat) : Nat :=
  total s.loanIds measure s.loanStore.loans

structure LedgerAgrees (s : State) : Prop where
  balance : ∀ asset user,
    (s.debtTokens asset).ledger.balances user = s.sumLoans (LoanData.owed asset user)
  supply : ∀ asset, (s.debtTokens asset).ledger.totalSupply = s.sumLoans (LoanData.owedTotal asset)

variable {s s' : State} {operation : Operation} {asset user : Address}
  {loanId old new scaled : Nat}

section Sums

variable (measure : LoanData → Nat)

theorem sumLoans_opened {loan : LoanData} (h : LoanOpened s loan s') :
    s'.sumLoans measure = s.sumLoans measure + measure loan := by
  unfold State.sumLoans State.loanIds
  rw [h.loanStore]
  exact total_range_succ_update _ _

theorem sumLoans_replaced {loan : LoanData} (hlt : loanId < s.loanStore.loanIdTracker)
    (h : LoanReplaced s loanId loan s') :
    s'.sumLoans measure + measure (s.loanStore.loans loanId) =
      s.sumLoans measure + measure loan := by
  unfold State.sumLoans State.loanIds
  rw [h.loanStore]
  exact total_update (Finset.mem_range.mpr hlt) _

theorem sumLoans_closed {ended : LoanData} {receiver : Address}
    (hlt : loanId < s.loanStore.loanIdTracker) (h : LoanClosed s loanId ended receiver s') :
    s'.sumLoans measure + measure (s.loanStore.loans loanId) =
      s.sumLoans measure + measure ended := by
  unfold State.sumLoans State.loanIds
  rw [h.loanStore]
  exact total_update (Finset.mem_range.mpr hlt) _

theorem sumLoans_congr (h : s'.loanStore = s.loanStore) :
    s'.sumLoans measure = s.sumLoans measure := by
  unfold State.sumLoans State.loanIds
  rw [h]

theorem sumLoans_filter {condition : LoanData → Prop} [DecidablePred condition]
    {amount : LoanData → Nat}
    (hmeasure : ∀ loan, measure loan = if condition loan then amount loan else 0) :
    s.sumLoans measure = ∑ loanId ∈ s.loanIds with condition (s.loanStore.loans loanId),
      amount (s.loanStore.loans loanId) := by
  unfold State.sumLoans total
  rw [Finset.sum_filter]
  exact Finset.sum_congr rfl fun loanId _ => hmeasure _

theorem le_sumLoans (hlt : loanId < s.loanStore.loanIdTracker) :
    measure (s.loanStore.loans loanId) ≤ s.sumLoans measure :=
  measure_le_total (Finset.mem_range.mpr hlt)

theorem Genesis.sumLoans (h : Genesis s) (hempty : measure .empty = 0) :
    s.sumLoans measure = 0 := by
  apply total_eq_zero
  intro loanId _
  rw [h.loanStore]
  exact hempty

end Sums

@[simp] theorem spot_zero (here : Prop) [Decidable here] : spot here 0 = 0 := ite_self 0

/-- The debt of one loan moved from an old to a new amount, as the loan book sees it. -/
structure BookDebt (s s' : State) (asset user : Address) (old new : Nat) : Prop where
  single : ∀ other holder, s'.sumLoans (LoanData.owed other holder) +
      spot (other = asset ∧ holder = user) old =
    s.sumLoans (LoanData.owed other holder) + spot (other = asset ∧ holder = user) new
  total : ∀ other, s'.sumLoans (LoanData.owedTotal other) + spot (other = asset) old =
    s.sumLoans (LoanData.owedTotal other) + spot (other = asset) new

structure TokenDebt (s s' : State) (asset user : Address) (old new : Nat) : Prop where
  balance : ∀ other holder, (s'.debtTokens other).ledger.balances holder +
      spot (other = asset ∧ holder = user) old =
    (s.debtTokens other).ledger.balances holder + spot (other = asset ∧ holder = user) new
  supply : ∀ other, (s'.debtTokens other).ledger.totalSupply + spot (other = asset) old =
    (s.debtTokens other).ledger.totalSupply + spot (other = asset) new

theorem LedgerAgrees.of_move (h : LedgerAgrees s) (hbook : BookDebt s s' asset user old new)
    (htoken : TokenDebt s s' asset user old new) : LedgerAgrees s' where
  balance := by
    intro other holder
    have hloans := hbook.single other holder
    have hbalances := htoken.balance other holder
    have hbefore := h.balance other holder
    omega
  supply := by
    intro other
    have hloans := hbook.total other
    have hsupply := htoken.supply other
    have hbefore := h.supply other
    omega

theorem LedgerAgrees.of_kept (h : LedgerAgrees s) (hkept : Kept s s') : LedgerAgrees s' where
  balance := by
    intro other holder
    rw [hkept.ledgers, sumLoans_congr _ hkept.loanStore]
    exact h.balance other holder
  supply := by
    intro other
    rw [hkept.ledgers, sumLoans_congr _ hkept.loanStore]
    exact h.supply other

/-! ### The loan book -/

section Book

variable {loan : LoanData} {other holder : Address}

theorem openAmount_of_live (hlive : loan.state.isLive = true) :
    loan.openAmount = loan.scaledAmount := if_pos hlive

theorem openAmount_of_dead (hdead : loan.state.isLive = false) : loan.openAmount = 0 := by
  unfold LoanData.openAmount
  rw [hdead]
  rfl

theorem BookDebt.of_opened (hlive : loan.state.isLive = true) (h : LoanOpened s loan s') :
    BookDebt s s' loan.reserveAsset loan.borrower 0 loan.scaledAmount where
  single := by
    intro other holder
    rw [sumLoans_opened _ h, LoanData.owed, openAmount_of_live hlive, spot_zero, Nat.add_zero]
  total := by
    intro other
    rw [sumLoans_opened _ h, LoanData.owedTotal, openAmount_of_live hlive, spot_zero, Nat.add_zero]

theorem BookDebt.of_replaced (hlt : loanId < s.loanStore.loanIdTracker)
    (hold : (s.loanStore.loans loanId).state.isLive = true) (h : LoanReplaced s loanId loan s')
    (hlive : loan.state.isLive = true) (hsame : SameDeal (s.loanStore.loans loanId) loan) :
    BookDebt s s' (s.loanStore.loans loanId).reserveAsset (s.loanStore.loans loanId).borrower
      (s.loanStore.loans loanId).scaledAmount loan.scaledAmount where
  single := by
    intro other holder
    have hsum := sumLoans_replaced (LoanData.owed other holder) hlt h
    simp only [LoanData.owed, openAmount_of_live hold, openAmount_of_live hlive,
      hsame.reserveAsset, hsame.borrower] at hsum
    exact hsum
  total := by
    intro other
    have hsum := sumLoans_replaced (LoanData.owedTotal other) hlt h
    simp only [LoanData.owedTotal, openAmount_of_live hold, openAmount_of_live hlive,
      hsame.reserveAsset] at hsum
    exact hsum

theorem BookDebt.of_closed {ended : LoanData} {receiver : Address}
    (hlt : loanId < s.loanStore.loanIdTracker)
    (hold : (s.loanStore.loans loanId).state.isLive = true) (hdead : ended.state.isLive = false)
    (h : LoanClosed s loanId ended receiver s') :
    BookDebt s s' (s.loanStore.loans loanId).reserveAsset (s.loanStore.loans loanId).borrower
      (s.loanStore.loans loanId).scaledAmount 0 where
  single := by
    intro other holder
    have hsum := sumLoans_closed (LoanData.owed other holder) hlt h
    simp only [LoanData.owed, openAmount_of_live hold, openAmount_of_dead hdead, spot_zero] at hsum
    rw [spot_zero]
    exact hsum
  total := by
    intro other
    have hsum := sumLoans_closed (LoanData.owedTotal other) hlt h
    simp only [LoanData.owedTotal, openAmount_of_live hold, openAmount_of_dead hdead,
      spot_zero] at hsum
    rw [spot_zero]
    exact hsum

theorem BookDebt.of_unchanged (h : s'.loanStore = s.loanStore) :
    BookDebt s s' asset user old old where
  single := by
    intro other holder
    rw [sumLoans_congr _ h]
  total := by
    intro other
    rw [sumLoans_congr _ h]

end Book

/-! ### The debt tokens -/

theorem TokenDebt.of_unchanged (h : s'.debtTokens = s.debtTokens) :
    TokenDebt s s' asset user old old where
  balance := by
    intro other holder
    rw [h]
  supply := by
    intro other
    rw [h]

theorem TokenDebt.of_credited {self : DebtToken}
    (hself : self.ledger = (s.debtTokens asset).ledger)
    (h : s'.debtTokens = Function.update s.debtTokens asset (self.credited user scaled)) :
    TokenDebt s s' asset user old (old + scaled) where
  balance := by
    intro other holder
    rw [h]
    unfold spot
    by_cases hother : other = asset
    · subst hother
      rw [Function.update_self]
      unfold DebtToken.credited
      rw [hself]
      by_cases hholder : holder = user
      · subst hholder
        simp
        omega
      · simp [hholder]
    · simp [hother]
  supply := by
    intro other
    rw [h]
    unfold spot
    by_cases hother : other = asset
    · subst hother
      rw [Function.update_self]
      unfold DebtToken.credited
      rw [hself]
      simp
      omega
    · simp [hother]

theorem TokenDebt.of_debited (hle : scaled ≤ old)
    (hburned : scaled ≤ (s.debtTokens asset).ledger.balances user ∧
      scaled ≤ (s.debtTokens asset).ledger.totalSupply)
    (h : s'.debtTokens = Function.update s.debtTokens asset
      ((s.debtTokens asset).debited user scaled)) :
    TokenDebt s s' asset user old (old - scaled) where
  balance := by
    intro other holder
    rw [h]
    unfold spot
    by_cases hother : other = asset
    · subst hother
      rw [Function.update_self]
      unfold DebtToken.debited
      by_cases hholder : holder = user
      · subst hholder
        have := hburned.1
        simp
        omega
      · simp [hholder]
    · simp [hother]
  supply := by
    intro other
    rw [h]
    unfold spot
    by_cases hother : other = asset
    · subst hother
      rw [Function.update_self]
      unfold DebtToken.debited
      have := hburned.2
      simp
      omega
    · simp [hother]

theorem TokenDebt.of_cleared (hall : scaled = old)
    (hburned : scaled ≤ (s.debtTokens asset).ledger.balances user ∧
      scaled ≤ (s.debtTokens asset).ledger.totalSupply)
    (h : s'.debtTokens = Function.update s.debtTokens asset
      ((s.debtTokens asset).debited user scaled)) :
    TokenDebt s s' asset user old 0 := by
  have htoken := TokenDebt.of_debited (Nat.le_of_eq hall) hburned h
  rwa [hall, Nat.sub_self] at htoken

/-! ### Every action -/

/-- An action moves the debt of at most one loan, by the same amount in both ledgers. -/
theorem PoolAction.debt (hb : BookValid s) (h : PoolAction s operation s') :
    ∃ asset user old new, BookDebt s s' asset user old new ∧
      TokenDebt s s' asset user old new := by
  have hlt : ∀ {nftAsset : Address} {nftTokenId : Nat},
      s.loanStore.nftToLoanIds nftAsset nftTokenId ≠ 0 →
        s.loanStore.nftToLoanIds nftAsset nftTokenId < s.loanStore.loanIdTracker :=
    fun hreg => hb.lt_tracker (hb.registered_live hreg)
  cases h with
  | deposit _ h =>
    exact ⟨.zero, .zero, 0, 0, .of_unchanged h.book.loanStore, .of_unchanged h.debtTokens⟩
  | withdraw _ h =>
    exact ⟨.zero, .zero, 0, 0, .of_unchanged h.book.loanStore, .of_unchanged h.debtTokens⟩
  | @borrow p n li vi scaled _ _ h =>
    obtain ⟨self, hself, htokens⟩ := h.debtTokens
    rcases h.book with hopened | htopped
    · refine ⟨_, _, _, _, .of_opened rfl hopened, ?_⟩
      have htoken : TokenDebt s s' p.asset p.onBehalfOf 0 (0 + scaled) := .of_credited hself htokens
      rw [Nat.zero_add] at htoken
      exact htoken
    · have hlive := hb.registered_live htopped.registered
      refine ⟨_, _, _, _, .of_replaced (hlt htopped.registered) hlive htopped.replaced hlive
        ⟨rfl, rfl, rfl, rfl, rfl⟩, ?_⟩
      have hasset := htopped.reserveAsset
      have hborrower := htopped.borrower
      unfold State.loanOf at hasset hborrower
      rw [hasset, hborrower]
      exact .of_credited hself htokens
  | @repay p n li vi debt paid scaled _ _ h =>
    have hlive := hb.registered_live h.registered
    rcases h.book with ⟨-, hle, hpartly⟩ | ⟨hfull, hclosed⟩
    · refine ⟨_, _, _, _, .of_replaced (hlt h.registered) hlive hpartly hlive
        ⟨rfl, rfl, rfl, rfl, rfl⟩, ?_⟩
      exact .of_debited hle h.burned h.debtTokens
    · refine ⟨_, _, _, _, .of_closed (hlt h.registered) hlive rfl hclosed, ?_⟩
      exact .of_cleared (h.scaled_all hfull) h.burned h.debtTokens
  | buyItNow _ _ h =>
    refine ⟨_, _, _, _, .of_replaced (hlt h.registered) (hb.registered_live h.registered)
      h.replaced rfl ⟨rfl, rfl, rfl, rfl, rfl⟩, ?_⟩
    exact .of_unchanged h.debtTokens
  | redeem _ _ h hs =>
    subst hs
    refine ⟨_, _, _, _, .of_replaced (hlt h.registered) (hb.registered_live h.registered)
      h.replaced rfl ⟨rfl, rfl, rfl, rfl, rfl⟩, ?_⟩
    exact .of_debited h.scaled_le h.burned rfl
  | liquidate _ _ h hs =>
    subst hs
    refine ⟨_, _, _, _, .of_closed (hlt h.registered) (hb.registered_live h.registered) rfl h.closed,
      ?_⟩
    exact .of_cleared h.scaled_all h.burned h.debtTokens

/-! ### Reachable states -/

theorem Genesis.ledgerAgrees (h : Genesis s) : LedgerAgrees s where
  balance := by
    intro asset user
    rw [h.debtTokens, h.sumLoans _ (spot_zero _)]
    rfl
  supply := by
    intro asset
    rw [h.debtTokens, h.sumLoans _ (spot_zero _)]
    rfl

theorem LedgerAgrees.step (h : LedgerAgrees s) (hreg : Regular s)
    (hs : operation.run s = .ok s') : LedgerAgrees s' := by
  rcases hreg.cases hs with haction | ⟨-, hkept⟩
  · obtain ⟨_, _, _, _, hbook, htoken⟩ := haction.debt hreg.book
    exact h.of_move hbook htoken
  · exact h.of_kept hkept

theorem ledgerAgrees_of_reachable (h : Reachable operations s) : LedgerAgrees s := by
  apply h.invariant
  · exact fun s hs => Genesis.ledgerAgrees hs
  · exact fun s operation s' hr hledger hs => hledger.step (regular_of_reachable hr) hs

end Confetti
