import Confetti.Invariants.Batches
import Confetti.Protocol.Deployment

/-! A market that is shut runs off: its loans are repaid, redeemed or liquidated, and no new
debt is made, whatever else goes on. -/
namespace Confetti
open Outcome TransitionSystem

/-- No loan is given out of a reserve that is frozen or closed for borrowing. -/
def ReserveShut (asset : Address) (s : State) : Prop :=
  (s.pool.reserves asset).configuration.getFrozen = true ∨
    (s.pool.reserves asset).configuration.getBorrowingEnabled = false

def CollectionShut (nftAsset : Address) (s : State) : Prop :=
  (s.pool.nfts nftAsset).configuration.getFrozen = true

instance (asset : Address) (s : State) : Decidable (ReserveShut asset s) :=
  inferInstanceAs (Decidable (_ ∨ _))

instance (nftAsset : Address) (s : State) : Decidable (CollectionShut nftAsset s) :=
  inferInstanceAs (Decidable (_ = _))

/-- Each live loan of a kind was live before, under the same terms, and owed no less. -/
structure LoansRunOff (concerns : LoanData → Prop) (s s' : State) : Prop where
  loan : ∀ loanId, (s'.loanStore.loans loanId).state.isLive = true →
    concerns (s'.loanStore.loans loanId) →
      (s.loanStore.loans loanId).state.isLive = true ∧
        SameDeal (s.loanStore.loans loanId) (s'.loanStore.loans loanId) ∧
          (s'.loanStore.loans loanId).scaledAmount ≤ (s.loanStore.loans loanId).scaledAmount

structure DebtsFall (asset : Address) (s s' : State) : Prop where
  balances : ∀ user, (s'.debtTokens asset).ledger.balances user ≤
    (s.debtTokens asset).ledger.balances user
  totalSupply : (s'.debtTokens asset).ledger.totalSupply ≤ (s.debtTokens asset).ledger.totalSupply

variable {s s' s'' : State} {asset nftAsset : Address} {concerns : LoanData → Prop}
  {operation : Operation}

theorem SameDeal.refl (loan : LoanData) : SameDeal loan loan := ⟨rfl, rfl, rfl, rfl, rfl⟩

theorem SameDeal.trans {old mid new : LoanData} (h : SameDeal old mid) (h' : SameDeal mid new) :
    SameDeal old new where
  loanId := h'.loanId.trans h.loanId
  borrower := h'.borrower.trans h.borrower
  nftAsset := h'.nftAsset.trans h.nftAsset
  nftTokenId := h'.nftTokenId.trans h.nftTokenId
  reserveAsset := h'.reserveAsset.trans h.reserveAsset

theorem LoansRunOff.of_same (h : s'.loanStore.loans = s.loanStore.loans) :
    LoansRunOff concerns s s' := by
  refine ⟨fun loanId hlive _ => ?_⟩
  rw [h] at hlive ⊢
  exact ⟨hlive, .refl _, Nat.le_refl _⟩

theorem LoansRunOff.trans (hdeal : ∀ old new, SameDeal old new → concerns new → concerns old)
    (h : LoansRunOff concerns s s') (h' : LoansRunOff concerns s' s'') :
    LoansRunOff concerns s s'' := by
  refine ⟨fun loanId hlive hconcerns => ?_⟩
  obtain ⟨hlive', hsame', hle'⟩ := h'.loan loanId hlive hconcerns
  obtain ⟨hlive, hsame, hle⟩ := h.loan loanId hlive' (hdeal _ _ hsame' hconcerns)
  exact ⟨hlive, hsame.trans hsame', hle'.trans hle⟩

theorem LoansRunOff.of_written {loanId : Nat} {new : LoanData}
    (h : s'.loanStore.loans = Function.update s.loanStore.loans loanId new)
    (hnew : new.state.isLive = true → concerns new →
      (s.loanStore.loans loanId).state.isLive = true ∧ SameDeal (s.loanStore.loans loanId) new ∧
        new.scaledAmount ≤ (s.loanStore.loans loanId).scaledAmount) :
    LoansRunOff concerns s s' := by
  refine ⟨fun other hlive hconcerns => ?_⟩
  rw [h] at hlive hconcerns ⊢
  by_cases hother : other = loanId
  · subst hother
    rw [Function.update_self] at hlive hconcerns ⊢
    exact hnew hlive hconcerns
  · rw [Function.update_of_ne hother] at hlive hconcerns ⊢
    exact ⟨hlive, .refl _, Nat.le_refl _⟩

theorem LoanReplaced.runsOff {nftTokenId : Nat} {loan : LoanData} (hb : BookValid s)
    (hreg : s.loanStore.nftToLoanIds nftAsset nftTokenId ≠ 0)
    (h : LoanReplaced s (s.loanStore.nftToLoanIds nftAsset nftTokenId) loan s')
    (hsame : SameDeal (s.loanOf nftAsset nftTokenId) loan)
    (hle : loan.scaledAmount ≤ (s.loanOf nftAsset nftTokenId).scaledAmount) :
    LoansRunOff concerns s s' := by
  apply LoansRunOff.of_written (congrArg LoanStore.loans h.loanStore)
  exact fun _ _ => ⟨hb.registered_live hreg, hsame, hle⟩

theorem LoanClosed.runsOff {loanId : Nat} {ended : LoanData} {receiver : Address}
    (h : LoanClosed s loanId ended receiver s') (hdead : ended.state.isLive = false) :
    LoansRunOff concerns s s' := by
  apply LoansRunOff.of_written (congrArg LoanStore.loans h.loanStore)
  intro hlive
  rw [hdead] at hlive
  cases hlive

/-- Only borrowing makes loans or lets them grow. -/
theorem PoolAction.loansRunOff (hb : BookValid s)
    (hborrow : ∀ p s' li vi scaled, BorrowEffect s p s' li vi scaled → ∀ loan : LoanData,
      loan.reserveAsset = p.asset → loan.nftAsset = p.nftAsset → ¬concerns loan)
    (h : PoolAction s operation s') : LoansRunOff concerns s s' := by
  cases h with
  | deposit _ h => exact .of_same (congrArg LoanStore.loans h.book.loanStore)
  | withdraw _ h => exact .of_same (congrArg LoanStore.loans h.book.loanStore)
  | @borrow p n li vi scaled _ _ h =>
    have hnone := hborrow p s' li vi scaled h
    rcases h.book with hopened | htopped
    · apply LoansRunOff.of_written (congrArg LoanStore.loans hopened.loanStore)
      exact fun _ hconcerns => absurd hconcerns (hnone _ rfl rfl)
    · apply LoansRunOff.of_written (congrArg LoanStore.loans htopped.replaced.loanStore)
      have hasset := (hb.toFiled _ _ htopped.registered).1
      exact fun _ hconcerns => absurd hconcerns (hnone _ htopped.reserveAsset hasset)
  | repay _ _ h =>
    rcases h.book with ⟨-, -, hpartly⟩ | ⟨-, hclosed⟩
    · exact hpartly.runsOff hb h.registered ⟨rfl, rfl, rfl, rfl, rfl⟩ (Nat.sub_le _ _)
    · exact hclosed.runsOff rfl
  | buyItNow _ _ h =>
    exact h.replaced.runsOff hb h.registered ⟨rfl, rfl, rfl, rfl, rfl⟩ (Nat.le_refl _)
  | redeem _ _ h hs =>
    subst hs
    exact h.replaced.runsOff hb h.registered ⟨rfl, rfl, rfl, rfl, rfl⟩ (Nat.sub_le _ _)
  | liquidate _ _ h hs =>
    subst hs
    exact h.closed.runsOff rfl

theorem DebtsFall.refl (asset : Address) (s : State) : DebtsFall asset s s :=
  ⟨fun _ => Nat.le_refl _, Nat.le_refl _⟩

theorem DebtsFall.trans (h : DebtsFall asset s s') (h' : DebtsFall asset s' s'') :
    DebtsFall asset s s'' :=
  ⟨fun user => (h'.balances user).trans (h.balances user), h'.totalSupply.trans h.totalSupply⟩

theorem DebtsFall.of_ledger (h : (s'.debtTokens asset).ledger = (s.debtTokens asset).ledger) :
    DebtsFall asset s s' := by
  constructor
  · intro user
    rw [h]
  · rw [h]

theorem debited_balances_le (self : DebtToken) (borrower user : Address) (scaled : Nat) :
    (self.debited borrower scaled).ledger.balances user ≤ self.ledger.balances user := by
  unfold DebtToken.debited
  simp only [Function.update_apply]
  split
  · rename_i heq
    rw [heq]
    exact Nat.sub_le _ _
  · exact Nat.le_refl _

theorem DebtsFall.of_debited {other borrower : Address} {scaled : Nat}
    (h : s'.debtTokens = Function.update s.debtTokens other
      ((s.debtTokens other).debited borrower scaled)) : DebtsFall asset s s' := by
  by_cases hother : asset = other
  · subst hother
    constructor
    · intro user
      rw [h, Function.update_self]
      exact debited_balances_le _ _ _ _
    · rw [h, Function.update_self]
      exact Nat.sub_le _ _
  · apply DebtsFall.of_ledger
    rw [h, Function.update_of_ne hother]

theorem PoolAction.debtsFall
    (hborrow : ∀ p s' li vi scaled, BorrowEffect s p s' li vi scaled → p.asset ≠ asset)
    (h : PoolAction s operation s') : DebtsFall asset s s' := by
  cases h with
  | deposit _ h => exact .of_ledger (congrArg _ (congrFun h.debtTokens asset))
  | withdraw _ h => exact .of_ledger (congrArg _ (congrFun h.debtTokens asset))
  | @borrow p n li vi scaled _ _ h =>
    obtain ⟨_, -, hdebts⟩ := h.debtTokens
    apply DebtsFall.of_ledger
    rw [hdebts, Function.update_of_ne (hborrow p s' li vi scaled h).symm]
  | repay _ _ h => exact .of_debited h.debtTokens
  | buyItNow _ _ h => exact .of_ledger (congrArg _ (congrFun h.debtTokens asset))
  | redeem _ _ h hs =>
    subst hs
    exact .of_debited rfl
  | liquidate _ _ h hs =>
    subst hs
    exact .of_debited h.debtTokens

/-! ### Checks -/

theorem validateBorrow_open {user : Address} {amount loanId : Nat}
    (h : ValidationLogic.validateBorrow s user asset amount nftAsset loanId = .ok ()) :
    ¬ReserveShut asset s ∧ ¬CollectionShut nftAsset s := by
  simp only [ValidationLogic.validateBorrow, bind_eq_ok, require_eq_ok, exists_const] at h
  obtain ⟨-, -, -, _, -, -, hfrozen, hborrowing, -, hnft, -⟩ := h
  change (s.pool.reserves asset).configuration.getFrozen = false at hfrozen
  change (s.pool.reserves asset).configuration.getBorrowingEnabled = true at hborrowing
  change (s.pool.nfts nftAsset).configuration.getFrozen = false at hnft
  refine ⟨?_, ?_⟩
  · rintro (hshut | hshut)
    · rw [hshut] at hfrozen
      cases hfrozen
    · rw [hshut] at hborrowing
      cases hborrowing
  · intro hshut
    rw [hshut] at hnft
    cases hnft

theorem BorrowEffect.opens {p : ExecuteBorrowParams} {li vi scaled : Nat}
    (h : BorrowEffect s p s' li vi scaled) :
    ¬ReserveShut p.asset s ∧ ¬CollectionShut p.nftAsset s := by
  obtain ⟨cTokens, -, hvalid⟩ := h.validated
  have hopen := validateBorrow_open hvalid
  unfold ReserveShut at hopen
  rw [accrued_configuration] at hopen
  exact hopen

theorem PoolAction.reserveShut_iff (h : PoolAction s operation s') :
    ReserveShut asset s' ↔ ReserveShut asset s := by
  obtain ⟨_, _, _, _, _, hsettled⟩ := h.settled
  unfold ReserveShut
  rw [hsettled.step.configuration]

theorem PoolAction.collectionShut_iff (h : PoolAction s operation s') :
    CollectionShut nftAsset s' ↔ CollectionShut nftAsset s := by
  obtain ⟨_, _, _, _, _, hsettled⟩ := h.settled
  unfold CollectionShut
  rw [hsettled.step.nfts]

/-! ### Runs -/

/-- A relation that holds over every operation from a shut state holds over a stretch of a run
in which all states are shut; batches do not change what is shut. -/
theorem Run.while_shut {shut : State → Prop} {rel : State → State → Prop}
    (hrefl : ∀ s, rel s s) (htrans : ∀ s m s', rel s m → rel m s' → rel s s')
    (hstep : ∀ s operation s', Reachable operations s → shut s →
      Operation.run s operation = .ok s' → rel s s')
    (hkeep : ∀ s operation s', PoolAction s operation s' → shut s → shut s')
    {history : List (Transition State Transaction)} (hs : Reachable transactions s)
    (hrun : Run transactions s history s') (hshut : ∀ t ∈ history, shut t.pre) : rel s s' := by
  have hitem : ∀ start m (operation : Operation) m', Reachable operations m →
      operation.entersPool = true → (shut m ∧ rel start m) → operation.run m = .ok m' →
        shut m' ∧ rel start m' := by
    intro start m operation m' hm hpool hinv h
    have hrel := htrans _ _ _ hinv.2 (hstep m operation m' hm hinv.1 h)
    rcases (regular_of_reachable hm).cases h with haction | ⟨haside, -⟩
    · exact ⟨hkeep m operation m' haction hinv.1, hrel⟩
    · rw [haside] at hpool
      cases hpool
  have hbatch : ∀ m (transaction : Transaction) m', Reachable operations m → shut m →
      (∀ operation ∈ transaction.items, operation.entersPool = true) →
        transaction.run m = .ok m' → rel m m' := by
    intro m transaction m' hm hmshut hpool h
    obtain ⟨items, hitems, hlabels⟩ := Transaction.runs (regular_of_reachable hm) h
    refine (hitems.preserves (hitem m) hm (fun t ht => hpool _ ?_) ⟨hmshut, hrefl m⟩).1.2
    rw [← hlabels]
    exact List.mem_map_of_mem ht
  have htransaction : ∀ m (transaction : Transaction) m', Reachable transactions m → shut m →
      rel s m → transaction.run m = .ok m' → rel s m' := by
    intro m transaction m' hm hmshut hrel h
    have hm := reachable_operations hm
    apply htrans _ _ _ hrel
    cases transaction with
    | single operation => exact hstep m operation m' hm hmshut h
    | batchBorrow | batchRepay =>
      apply hbatch m _ m' hm hmshut _ h
      intro operation hin
      obtain ⟨p, -, rfl⟩ := List.mem_map.mp hin
      rfl
  exact (hrun.preserves htransaction hs hshut (hrefl s)).1

/-- A shut reserve and a shut collection run off. -/
theorem shut_markets_run_off {history : List (Transition State Transaction)}
    (hs : Reachable transactions s) (hrun : Run transactions s history s') (asset : Address) :
    ((∀ t ∈ history, ReserveShut asset t.pre) →
      LoansRunOff (fun loan => loan.reserveAsset = asset) s s' ∧ DebtsFall asset s s') ∧
    ((∀ t ∈ history, CollectionShut asset t.pre) →
      LoansRunOff (fun loan => loan.nftAsset = asset) s s') := by
  refine ⟨fun hshut => ⟨?_, ?_⟩, fun hshut => ?_⟩
  · have hdeal : ∀ old new : LoanData, SameDeal old new → new.reserveAsset = asset →
        old.reserveAsset = asset := fun old new hsame hnew => hsame.reserveAsset.symm.trans hnew
    apply Run.while_shut (fun m => LoansRunOff.of_same rfl) (fun _ _ _ => LoansRunOff.trans hdeal)
      _ (fun _ _ _ haction => haction.reserveShut_iff.mpr) hs hrun hshut
    intro m operation m' hm hmshut h
    have hreg := regular_of_reachable hm
    rcases hreg.cases h with haction | ⟨-, hkept⟩
    · apply haction.loansRunOff hreg.book
      rintro p m' li vi scaled heffect loan hreserve - rfl
      rw [hreserve] at hmshut
      exact heffect.opens.1 hmshut
    · exact .of_same (congrArg LoanStore.loans hkept.loanStore)
  · apply Run.while_shut (DebtsFall.refl asset) (fun _ _ _ => DebtsFall.trans) _
      (fun _ _ _ haction => haction.reserveShut_iff.mpr) hs hrun hshut
    intro m operation m' hm hmshut h
    rcases (regular_of_reachable hm).cases h with haction | ⟨-, hkept⟩
    · apply haction.debtsFall
      rintro p m' li vi scaled heffect rfl
      exact heffect.opens.1 hmshut
    · exact .of_ledger (hkept.ledgers asset)
  · have hdeal : ∀ old new : LoanData, SameDeal old new → new.nftAsset = asset →
        old.nftAsset = asset := fun old new hsame hnew => hsame.nftAsset.symm.trans hnew
    apply Run.while_shut (fun m => LoansRunOff.of_same rfl) (fun _ _ _ => LoansRunOff.trans hdeal)
      _ (fun _ _ _ haction => haction.collectionShut_iff.mpr) hs hrun hshut
    intro m operation m' hm hmshut h
    have hreg := regular_of_reachable hm
    rcases hreg.cases h with haction | ⟨-, hkept⟩
    · apply haction.loansRunOff hreg.book
      rintro p m' li vi scaled heffect loan - hcollection rfl
      rw [hcollection] at hmshut
      exact heffect.opens.2 hmshut
    · exact .of_same (congrArg LoanStore.loans hkept.loanStore)

/-- The reserve and the collection are frozen; account 2 repays a part of its loan. -/
def sampleFrozen : State :=
  replayed transactions sampleLent
    [.single (.admin (.setFreezeFlagOnReserve [sampleMarket.asset] true)),
      .single (.admin (.setFreezeFlagOnNft [sampleMarket.nftAsset] true))]

def sampleRunOff : List Transaction :=
  [.single (.user (.borrow 2 sampleMarket.asset 5 sampleMarket.nftAsset 7 (.account 2))),
    .single (.world (.tick 86400)),
    .batchRepay 2 [sampleMarket.nftAsset] [7] [10 ^ 19]]

theorem shut_markets_run_off_frozen :
    let s' := replayed transactions sampleFrozen sampleRunOff
    DebtsFall sampleMarket.asset sampleFrozen s' ∧
      LoansRunOff (fun loan => loan.nftAsset = sampleMarket.nftAsset) sampleFrozen s' := by
  have hs : Reachable transactions sampleFrozen :=
    replayed_reachable (reachable_transactions sampleLent_reachable) _
  have hrun : Run transactions sampleFrozen _ _ := trace_run sampleFrozen sampleRunOff
  refine ⟨((shut_markets_run_off hs hrun sampleMarket.asset).1 ?_).2,
    (shut_markets_run_off hs hrun sampleMarket.nftAsset).2 ?_⟩
  · decide +kernel
  · decide +kernel

end Confetti
