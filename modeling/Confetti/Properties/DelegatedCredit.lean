import Confetti.Effects.Frames
import Confetti.Effects.Positions
import Confetti.Invariants.Batches
import Confetti.Protocol.Deployment

/-! Nobody is put into debt without having borrowed or having delegated the credit. -/
namespace Confetti
open Outcome TransitionSystem

/-- What a user has last approved for a delegatee, and what the delegatee has borrowed on
the user's behalf since then. -/
structure CreditLine where
  approved : Nat
  borrowed : Nat
  deriving DecidableEq

/-- An approval starts afresh; a borrow of the delegatee uses up credit. -/
def CreditLine.after (asset user delegatee : Address) (line : CreditLine) :
    Operation → CreditLine
  | .user (.approveDelegation caller own receiver amount) =>
    if own = asset ∧ .account caller = user ∧ receiver = delegatee then ⟨amount, 0⟩ else line
  | .user (.borrow caller own amount _ _ onBehalfOf) =>
    if own = asset ∧ .account caller = delegatee ∧ onBehalfOf = user then
      { line with borrowed := line.borrowed + amount }
    else line
  | _ => line

def creditLine (asset user delegatee : Address) (calls : List Operation) : CreditLine :=
  calls.foldl (CreditLine.after asset user delegatee) ⟨0, 0⟩

def State.scaledDebt (s : State) (asset user : Address) : Nat :=
  (s.debtTokens asset).scaledBalanceOf user

def Operation.BorrowsFor (asset user : Address) (operation : Operation) : Prop :=
  ∃ caller p, operation = .user (.ofBorrow caller p) ∧ p.asset = asset ∧ p.onBehalfOf = user

variable {s s' : State} {operation : Operation} {asset user delegatee : Address}

/-! ### One call -/

/-- The allowance that is left and what was borrowed make up what was approved. -/
def CreditCounted (s : State) (asset user delegatee : Address) (line : CreditLine) : Prop :=
  (s.debtTokens asset).borrowAllowances user delegatee + line.borrowed = line.approved

theorem CreditCounted.congr {line : CreditLine} (h : CreditCounted s asset user delegatee line)
    (hsame : (s'.debtTokens asset).borrowAllowances user delegatee =
      (s.debtTokens asset).borrowAllowances user delegatee) :
    CreditCounted s' asset user delegatee line := by
  unfold CreditCounted
  rw [hsame]
  exact h

private theorem allowed_apply (allowances : Address → Address → Nat) (owner spender : Address)
    (amount : Nat) : ERC20.allowed allowances owner spender amount user delegatee =
      if user = owner ∧ delegatee = spender then amount else allowances user delegatee := by
  unfold ERC20.allowed
  simp only [Function.update_apply]
  by_cases howner : user = owner
  · subst howner
    by_cases hspender : delegatee = spender
    · simp [hspender]
    · simp [hspender]
  · simp [howner]

/-- A mint by somebody else uses up the allowance, a mint by the debtor does not. -/
theorem allowance_of_mint (asset : Address) {debtTokens debtTokens' : Address → DebtToken}
    {own initiator onBehalfOf : Address} {amount index : Nat} (hother : delegatee ≠ user)
    (h : DebtToken.mint debtTokens (.debtToken own) initiator onBehalfOf amount index =
      .ok debtTokens') :
    (debtTokens' asset).borrowAllowances user delegatee +
        (if own = asset ∧ initiator = delegatee ∧ onBehalfOf = user then amount else 0) =
      (debtTokens asset).borrowAllowances user delegatee := by
  obtain ⟨own', scaled, self, hown, -, -, -, hself, -, rfl⟩ := DebtToken.mint_spec h
  obtain rfl := Address.debtToken.inj hown
  rw [Function.update_apply]
  by_cases hasset : asset = own
  · subst hasset
    rw [if_pos rfl]
    change self.borrowAllowances user delegatee + _ = _
    split at hself
    · obtain ⟨hle, rfl⟩ := DebtToken.decreaseBorrowAllowance_eq_ok.mp hself
      change ERC20.allowed _ _ _ _ _ _ + _ = _
      rw [allowed_apply]
      by_cases hboth : user = onBehalfOf ∧ delegatee = initiator
      · obtain ⟨rfl, rfl⟩ := hboth
        rw [if_pos ⟨rfl, rfl⟩, if_pos ⟨rfl, rfl, rfl⟩]
        omega
      · have hnot : ¬(asset = asset ∧ initiator = delegatee ∧ onBehalfOf = user) :=
          fun hall => hboth ⟨hall.2.2.symm, hall.2.1.symm⟩
        rw [if_neg hboth, if_neg hnot, Nat.add_zero]
    · rename_i hsame
      obtain rfl := pure_eq_ok.mp hself
      have hnot : ¬(asset = asset ∧ initiator = delegatee ∧ onBehalfOf = user) := by
        rintro ⟨-, rfl, rfl⟩
        exact hsame hother
      rw [if_neg hnot, Nat.add_zero]
  · have hnot : ¬(own = asset ∧ initiator = delegatee ∧ onBehalfOf = user) :=
      fun hall => hasset hall.1.symm
    rw [if_neg hasset, if_neg hnot, Nat.add_zero]

theorem CreditLine.after_approve (line : CreditLine) {own receiver : Address} {n amount : Nat} :
    line.after asset user delegatee (.user (.approveDelegation n own receiver amount)) =
      if own = asset ∧ .account n = user ∧ receiver = delegatee then ⟨amount, 0⟩ else line := rfl

theorem CreditLine.after_borrow (line : CreditLine) {own nftAsset onBehalfOf : Address}
    {n amount nftTokenId : Nat} :
    line.after asset user delegatee
        (.user (.borrow n own amount nftAsset nftTokenId onBehalfOf)) =
      if own = asset ∧ .account n = delegatee ∧ onBehalfOf = user then
        { line with borrowed := line.borrowed + amount }
      else line := rfl

theorem CreditLine.after_quiet (line : CreditLine) {call : UserCall}
    (hcall : call.usesCredit = false) : line.after asset user delegatee (.user call) = line := by
  cases call with
  | borrow | approveDelegation => cases hcall
  | _ => rfl

theorem UserCall.creditCounted {line : CreditLine} (hother : delegatee ≠ user) (hw : Wired s)
    (hf : Filed s) {call : UserCall} (hrun : call.run s = .ok s')
    (hline : CreditCounted s asset user delegatee line) :
    CreditCounted s' asset user delegatee (line.after asset user delegatee (.user call)) := by
  cases debt_move hw hf hrun with
  | kept hcall h =>
    rw [CreditLine.after_quiet line hcall]
    apply hline.congr
    rw [h]
  | @minted n amount _ _ own _ onBehalfOf hcall h =>
    subst hcall
    have hmint := allowance_of_mint asset hother h
    rw [CreditLine.after_borrow]
    unfold CreditCounted at *
    by_cases hall : own = asset ∧ .account n = delegatee ∧ onBehalfOf = user
    · simp only [if_pos hall] at hmint ⊢
      omega
    · simp only [if_neg hall] at hmint ⊢
      omega
  | @burned own borrower scaled hcall h =>
    rw [CreditLine.after_quiet line hcall]
    apply hline.congr
    rw [h, Function.update_apply]
    split
    · rename_i heq
      rw [heq]
      rfl
    · rfl
  | @delegated n amount own receiver hcall h =>
    subst hcall
    rw [CreditLine.after_approve]
    unfold CreditCounted at *
    rw [h, Function.update_apply]
    by_cases hasset : asset = own
    · subst hasset
      rw [if_pos rfl]
      change ERC20.allowed _ _ _ _ _ _ + _ = _
      rw [allowed_apply]
      by_cases hboth : user = .account n ∧ delegatee = receiver
      · rw [if_pos hboth, if_pos ⟨rfl, hboth.1.symm, hboth.2.symm⟩, Nat.add_zero]
      · have hnot : ¬(asset = asset ∧ .account n = user ∧ receiver = delegatee) :=
          fun hall => hboth ⟨hall.2.1.symm, hall.2.2.symm⟩
        rw [if_neg hboth, if_neg hnot]
        exact hline
    · have hnot : ¬(own = asset ∧ .account n = user ∧ receiver = delegatee) :=
        fun hall => hasset hall.1.symm
      rw [if_neg hasset, if_neg hnot]
      exact hline

theorem Operation.debtTokens_eq (haside : ∀ call, operation ≠ .user call)
    (h : operation.run s = .ok s') : s'.debtTokens = s.debtTokens := by
  cases operation with
  | user call => exact absurd rfl (haside call)
  | token call =>
    obtain ⟨_, _, _, _, rfl⟩ := TokenCall.frame h
    rfl
  | admin call =>
    obtain ⟨_, _, _, rfl⟩ := (AdminCall.frame h).shape
    rfl
  | world event =>
    obtain ⟨_, _, _, _, _, -, rfl⟩ := WorldEvent.frame h
    rfl

theorem CreditCounted.step {line : CreditLine} (hother : delegatee ≠ user)
    (hs : Reachable operations s) (h : operation.run s = .ok s')
    (hline : CreditCounted s asset user delegatee line) :
    CreditCounted s' asset user delegatee (line.after asset user delegatee operation) := by
  have hreg := regular_of_reachable hs
  cases operation with
  | user call => exact UserCall.creditCounted hother hreg.sound.wired hreg.book.toFiled h hline
  | token | admin | world =>
    apply hline.congr
    rw [Operation.debtTokens_eq (fun _ h => by cases h) h]

/-- Only a borrow on a user's behalf raises what the user owes. -/
theorem Operation.borrowsFor_of_lt (hs : Reachable operations s) (h : operation.run s = .ok s')
    (hlt : s.scaledDebt asset user < s'.scaledDebt asset user) :
    operation.BorrowsFor asset user := by
  have hreg := regular_of_reachable hs
  unfold State.scaledDebt DebtToken.scaledBalanceOf at hlt
  by_cases haside : ∀ call, operation ≠ .user call
  · rw [Operation.debtTokens_eq haside h] at hlt
    exact absurd hlt (Nat.lt_irrefl _)
  · obtain ⟨call, hcall⟩ := not_forall.mp haside
    obtain rfl := not_not.mp hcall
    cases debt_move hreg.sound.wired hreg.book.toFiled h with
    | kept _ h =>
      rw [h] at hlt
      exact absurd hlt (Nat.lt_irrefl _)
    | @minted n amount nftTokenId _ own nftAsset onBehalfOf hcall h =>
      obtain ⟨minted, scaled, self, hown, -, -, -, -, hledger, hminted⟩ := DebtToken.mint_spec h
      obtain rfl := Address.debtToken.inj hown
      rw [hminted, Function.update_apply] at hlt
      by_cases hasset : asset = own
      · subst hasset
        rw [if_pos rfl] at hlt
        simp only [DebtToken.credited, hledger, Function.update_apply] at hlt
        by_cases huser : user = onBehalfOf
        · subst huser hcall
          exact ⟨n, ⟨.account n, asset, amount, nftAsset, nftTokenId, user⟩, rfl, rfl, rfl⟩
        · rw [if_neg huser] at hlt
          exact absurd hlt (Nat.lt_irrefl _)
      · rw [if_neg hasset] at hlt
        exact absurd hlt (Nat.lt_irrefl _)
    | @burned own borrower scaled _ h =>
      rw [h, Function.update_apply] at hlt
      by_cases hasset : asset = own
      · subst hasset
        rw [if_pos rfl] at hlt
        simp only [DebtToken.debited, Function.update_apply] at hlt
        by_cases huser : user = borrower
        · subst huser
          rw [if_pos rfl] at hlt
          omega
        · rw [if_neg huser] at hlt
          exact absurd hlt (Nat.lt_irrefl _)
      · rw [if_neg hasset] at hlt
        exact absurd hlt (Nat.lt_irrefl _)
    | @delegated n amount own receiver _ h =>
      rw [h, Function.update_apply] at hlt
      split at hlt
      · rename_i hasset
        rw [hasset] at hlt
        exact absurd hlt (Nat.lt_irrefl _)
      · exact absurd hlt (Nat.lt_irrefl _)

/-! ### Along runs -/

section Runs

variable {history : List (Transition State Transaction)}

theorem creditCounted_of_run {line : CreditLine} {items : List (Transition State Operation)}
    (hother : delegatee ≠ user) (hs : Reachable operations s)
    (hline : CreditCounted s asset user delegatee line) (hrun : Run operations s items s') :
    CreditCounted s' asset user delegatee
      ((items.map Transition.label).foldl (CreditLine.after asset user delegatee) line) := by
  induction hrun with
  | nil => exact hline
  | snoc hbefore hstep ih =>
    rw [List.map_append, List.foldl_append]
    exact ih.step hother (hbefore.reachable hs) hstep

/-- Whoever owes more after a transaction is named as the debtor by one of its borrows. -/
theorem Transaction.borrowsFor_of_lt {transaction : Transaction} (hs : Reachable operations s)
    (h : transaction.run s = .ok s')
    (hlt : s.scaledDebt asset user < s'.scaledDebt asset user) :
    ∃ operation ∈ transaction.items, operation.BorrowsFor asset user := by
  by_contra hnone
  obtain ⟨items, hrun, hlabels⟩ := Transaction.runs (regular_of_reachable hs) h
  have hstep : ∀ m (operation : Operation) m', Reachable operations m →
      ¬operation.BorrowsFor asset user → m.scaledDebt asset user ≤ s.scaledDebt asset user →
        operations.step m operation = .ok m' →
          m'.scaledDebt asset user ≤ s.scaledDebt asset user := by
    intro m operation m' hm hnot hle hrun
    refine le_trans (Nat.le_of_not_lt fun hlt => ?_) hle
    exact hnot (Operation.borrowsFor_of_lt hm hrun hlt)
  have hkept := (Run.preserves hstep hrun hs (fun t ht => ?_) le_rfl).1
  · omega
  · intro hborrows
    refine hnone ⟨t.label, ?_, hborrows⟩
    rw [← hlabels]
    exact List.mem_map_of_mem ht

theorem topUp_borrower {p : ExecuteBorrowParams} (hs : Reachable operations s)
    (h : BorrowLogic.borrow s p = .ok s')
    (hid : s.loanStore.nftToLoanIds p.nftAsset p.nftTokenId ≠ 0) :
    (s.loanOf p.nftAsset p.nftTokenId).borrower = p.onBehalfOf := by
  obtain ⟨li, vi, scaled, heffect⟩ := borrow_effect (regular_of_reachable hs).sound.wired h
  obtain ⟨cTokens, -, hvalid⟩ := heffect.validated
  exact ((validateBorrow_facts hvalid).2.2 hid).2.2

/-- A user owes more only after a borrow on the user's behalf; what a delegatee borrows on
it stays within the last approval; and a loan is topped up for its own borrower only. -/
theorem no_debt_without_consent {s₀ : State} (hs : Genesis s₀)
    (hrun : Run transactions s₀ history s) :
    (∀ t ∈ history, ∀ asset user,
      t.pre.scaledDebt asset user < t.post.scaledDebt asset user →
        ∃ operation ∈ t.label.items, operation.BorrowsFor asset user) ∧
    (∀ asset user delegatee, delegatee ≠ user →
      (creditLine asset user delegatee (calls history)).borrowed ≤
        (creditLine asset user delegatee (calls history)).approved) ∧
    (∀ p s', BorrowLogic.borrow s p = .ok s' →
      s.loanStore.nftToLoanIds p.nftAsset p.nftTokenId ≠ 0 →
        (s.loanOf p.nftAsset p.nftTokenId).borrower = p.onBehalfOf) := by
  have hstart : Reachable transactions s₀ := .initial hs
  refine ⟨?_, ?_, ?_⟩
  · intro t ht asset user hlt
    obtain ⟨hpre, hstep⟩ := hrun.transition_reachable hstart t ht
    exact Transaction.borrowsFor_of_lt (reachable_operations hpre) hstep hlt
  · intro asset user delegatee hother
    obtain ⟨items, hitems, hlabels⟩ := Run.of_transactions (reachable_operations hstart) hrun
    have hline : CreditCounted s₀ asset user delegatee ⟨0, 0⟩ := by
      unfold CreditCounted
      rw [hs.debtTokens]
      rfl
    have hend := creditCounted_of_run hother (reachable_operations hstart) hline hitems
    rw [hlabels] at hend
    unfold CreditCounted at hend
    unfold creditLine
    omega
  · intro p s' h hid
    exact topUp_borrower (reachable_operations (hrun.reachable hstart)) h hid

end Runs

/-- Account 3 borrows against its NFT in the name of account 2. -/
def sampleDelegation : List Operation :=
  sampleMarket.opening ++ sampleMarket.funding 1 (10 ^ 24) ++ sampleMarket.minting 3 7 ++
    [.user (.deposit 1 sampleMarket.asset (1000 * 10 ^ 18) (.account 1)),
      .user (.approveDelegation 2 sampleMarket.asset (.account 3) (30 * 10 ^ 18)),
      .user (.borrow 3 sampleMarket.asset (20 * 10 ^ 18) sampleMarket.nftAsset 7 (.account 2))]

def sampleDelegated : List Transaction := sampleDelegation.map .single

theorem no_debt_without_consent_delegated :
    (replayed transactions sampleWorld sampleDelegated).scaledDebt sampleMarket.asset
        (.account 2) = 20 * 10 ^ 18 ∧
      (creditLine sampleMarket.asset (.account 2) (.account 3)
        (calls (trace transactions sampleWorld sampleDelegated))).borrowed ≤
      (creditLine sampleMarket.asset (.account 2) (.account 3)
        (calls (trace transactions sampleWorld sampleDelegated))).approved := by
  refine ⟨by decide +kernel, ?_⟩
  have hs : Genesis sampleWorld := State.fresh_genesis (by decide) _ _ _
  exact (no_debt_without_consent hs (trace_run sampleWorld sampleDelegated)).2.1
    sampleMarket.asset (.account 2) (.account 3) (by decide)

end Confetti
