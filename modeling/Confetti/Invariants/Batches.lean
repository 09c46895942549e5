import Confetti.Invariants.Book

/-! A batch is the run of its items: whatever holds along runs of operations holds of
transactions. -/
namespace Confetti
open Outcome TransitionSystem

variable {s s' : State}

theorem run_ofBorrow {caller : Nat} {p : ExecuteBorrowParams} (hp : p.initiator = .account caller)
    (hpaused : s.pool.paused = false) (h : BorrowLogic.borrow s p = .ok s') :
    Operation.run s (.user (.ofBorrow caller p)) = .ok s' := by
  have hstart : LendPool.whenNotPaused s = .ok () := require_of hpaused
  change (LendPool.whenNotPaused s >>= fun _ => BorrowLogic.executeBorrow s
    { p with initiator := .account caller }) = .ok s'
  rw [hstart, ← hp]
  exact h

theorem run_ofRepay {caller : Nat} {p : ExecuteRepayParams} {r : Nat × Bool}
    (hp : p.initiator = .account caller) (hpaused : s.pool.paused = false)
    (h : BorrowLogic.repay s p = .ok (s', r)) :
    Operation.run s (.user (.ofRepay caller p)) = .ok s' := by
  have hstart : LendPool.whenNotPaused s = .ok () := require_of hpaused
  change Prod.fst <$> (LendPool.whenNotPaused s >>= fun _ => BorrowLogic.executeRepay s
    { p with initiator := .account caller }) = .ok s'
  rw [hstart, ← hp, map_eq_ok]
  exact ⟨(s', r), h, rfl⟩

theorem borrowItems_initiator {params : ExecuteBatchBorrowParams} :
    ∀ p ∈ BorrowLogic.borrowItems params, p.initiator = params.initiator := by
  intro p hp
  unfold BorrowLogic.borrowItems at hp
  obtain ⟨i, hi, rfl⟩ := List.mem_iff_getElem.mp hp
  rw [List.getElem_zipWith]

theorem repayItems_initiator {params : ExecuteBatchRepayParams} :
    ∀ p ∈ BorrowLogic.repayItems params, p.initiator = params.initiator := by
  intro p hp
  unfold BorrowLogic.repayItems at hp
  obtain ⟨i, hi, rfl⟩ := List.mem_iff_getElem.mp hp
  rw [List.getElem_zipWith]

theorem borrow_items_run {caller : Nat} {items : List ExecuteBorrowParams}
    (hitems : ∀ p ∈ items, p.initiator = .account caller) (hreg : Regular s)
    (hpaused : s.pool.paused = false) (h : items.foldlM BorrowLogic.borrow s = .ok s') :
    ∃ history, Run operations s history s' ∧
      history.map Transition.label = items.map fun p => .user (.ofBorrow caller p) := by
  induction items generalizing s with
  | nil =>
    obtain rfl := pure_eq_ok.mp h
    exact ⟨[], .nil s, rfl⟩
  | cons p items ih =>
    rw [List.foldlM_cons] at h
    obtain ⟨m, hm, h⟩ := bind_eq_ok.mp h
    have hstep := run_ofBorrow (hitems p List.mem_cons_self) hpaused hm
    obtain ⟨_, _, _, heffect⟩ := borrow_effect hreg.sound.wired hm
    obtain ⟨history, hrun, hlabels⟩ := ih (fun q hq => hitems q (List.mem_cons_of_mem p hq))
      (hreg.step hstep) (heffect.step.paused.trans hpaused) h
    have hlabel : operations.step s (.user (.ofBorrow caller p)) = .ok m := hstep
    refine ⟨_, (Run.single hlabel).append hrun, ?_⟩
    rw [List.map_append, hlabels]
    rfl

theorem repay_items_run {caller : Nat} {items : List ExecuteRepayParams}
    {done all : List (Nat × Bool)}
    (hitems : ∀ p ∈ items, p.initiator = .account caller) (hreg : Regular s)
    (hpaused : s.pool.paused = false)
    (h : items.foldlM BorrowLogic.repayNext (s, done) = .ok (s', all)) :
    ∃ history, Run operations s history s' ∧
      history.map Transition.label = items.map fun p => .user (.ofRepay caller p) := by
  induction items generalizing s done with
  | nil =>
    obtain ⟨rfl, -⟩ := Prod.mk.inj (pure_eq_ok.mp h)
    exact ⟨[], .nil s, rfl⟩
  | cons p items ih =>
    rw [List.foldlM_cons] at h
    obtain ⟨_, hnext, h⟩ := bind_eq_ok.mp h
    obtain ⟨⟨m, r⟩, hm, rfl⟩ := bind_pure_eq_ok.mp hnext
    have hstep := run_ofRepay (hitems p List.mem_cons_self) hpaused hm
    obtain ⟨_, _, _, _, heffect, -⟩ := repay_effect hreg.sound.wired hreg.book.toFiled hm
    obtain ⟨history, hrun, hlabels⟩ := ih (fun q hq => hitems q (List.mem_cons_of_mem p hq))
      (hreg.step hstep) (heffect.step.paused.trans hpaused) h
    have hlabel : operations.step s (.user (.ofRepay caller p)) = .ok m := hstep
    refine ⟨_, (Run.single hlabel).append hrun, ?_⟩
    rw [List.map_append, hlabels]
    rfl

def Transaction.items : Transaction → List Operation
  | .single operation => [operation]
  | .batchBorrow caller assets amounts nftAssets nftTokenIds onBehalfOf =>
    (BorrowLogic.borrowItems
      { initiator := .account caller, assets, amounts, nftAssets, nftTokenIds, onBehalfOf }).map
        fun p => .user (.ofBorrow caller p)
  | .batchRepay caller nftAssets nftTokenIds amounts =>
    (BorrowLogic.repayItems
      { initiator := .account caller, nftAssets, nftTokenIds, amounts }).map
        fun p => .user (.ofRepay caller p)

/-- Every transaction is the run of its items. -/
theorem Transaction.runs (hreg : Regular s) {transaction : Transaction}
    (h : transaction.run s = .ok s') : ∃ history, Run operations s history s' ∧
      history.map Transition.label = transaction.items := by
  cases transaction with
  | single operation => exact ⟨_, .single h, rfl⟩
  | batchBorrow caller assets amounts nftAssets nftTokenIds onBehalfOf =>
    obtain ⟨_, hpaused, h⟩ := bind_eq_ok.mp h
    simp only [BorrowLogic.executeBatchBorrow, bind_eq_ok, require_eq_ok, exists_const] at h
    exact borrow_items_run borrowItems_initiator hreg (require_eq_ok.mp hpaused) h.2.2.2
  | batchRepay caller nftAssets nftTokenIds amounts =>
    obtain ⟨⟨_, results⟩, h, rfl⟩ := map_eq_ok.mp h
    obtain ⟨_, hpaused, h⟩ := bind_eq_ok.mp h
    simp only [BorrowLogic.executeBatchRepay, bind_eq_ok, require_eq_ok, exists_const] at h
    exact repay_items_run repayItems_initiator hreg (require_eq_ok.mp hpaused) h.2.2

def calls (history : List (Transition State Transaction)) : List Operation :=
  history.flatMap fun t => t.label.items

theorem Run.of_transactions {history : List (Transition State Transaction)}
    (hs : Reachable operations s) (hrun : Run transactions s history s') :
    ∃ items, Run operations s items s' ∧ items.map Transition.label = calls history := by
  induction hrun with
  | nil => exact ⟨[], .nil s, rfl⟩
  | snoc _ hstep ih =>
    obtain ⟨before, hbefore, hlabels⟩ := ih
    obtain ⟨last, hlast, hlabel⟩ := Transaction.runs (regular_of_reachable (hbefore.reachable hs)) hstep
    refine ⟨_, hbefore.append hlast, ?_⟩
    rw [List.map_append, hlabels, hlabel]
    simp [calls]

theorem Transaction.preserves {inv : State → Prop} {allowed : State → Operation → Prop}
    (hstep : ∀ s operation s', Reachable operations s → allowed s operation → inv s →
      Operation.run s operation = .ok s' → inv s')
    (hborrow : ∀ s caller p, allowed s (.user (.ofBorrow caller p)))
    (hrepay : ∀ s caller p, allowed s (.user (.ofRepay caller p))) {transaction : Transaction}
    (hs : Reachable operations s)
    (hallowed : ∀ operation, transaction = .single operation → allowed s operation)
    (hinv : inv s) (h : transaction.run s = .ok s') : inv s' := by
  obtain ⟨history, hrun, hlabels⟩ := Transaction.runs (regular_of_reachable hs) h
  have hitem : ∀ t ∈ history, t.label ∈ transaction.items := by
    intro t ht
    rw [← hlabels]
    exact List.mem_map_of_mem ht
  cases transaction with
  | single operation => exact hstep s operation s' hs (hallowed operation rfl) hinv h
  | batchBorrow =>
    refine (hrun.preserves hstep hs (fun t ht => ?_) hinv).1
    obtain ⟨p, -, hp⟩ := List.mem_map.mp (hitem t ht)
    rw [← hp]
    exact hborrow _ _ p
  | batchRepay =>
    refine (hrun.preserves hstep hs (fun t ht => ?_) hinv).1
    obtain ⟨p, -, hp⟩ := List.mem_map.mp (hitem t ht)
    rw [← hp]
    exact hrepay _ _ p

theorem reachable_transactions (h : Reachable operations s) : Reachable transactions s := by
  induction h with
  | initial h => exact .initial h
  | @step m m' operation _ hstep ih =>
    have hlabel : transactions.step m (.single operation) = .ok m' := hstep
    exact .step ih hlabel

theorem reachable_operations (h : Reachable transactions s) : Reachable operations s := by
  induction h with
  | initial h => exact .initial h
  | step _ hstep ih =>
    obtain ⟨_, hrun, -⟩ := Transaction.runs (regular_of_reachable ih) hstep
    exact hrun.reachable ih

theorem Run.preserves_operations {inv : State → Prop} {allowed : State → Operation → Prop}
    (hstep : ∀ s operation s', Reachable operations s → allowed s operation → inv s →
      Operation.run s operation = .ok s' → inv s')
    (hborrow : ∀ s caller p, allowed s (.user (.ofBorrow caller p)))
    (hrepay : ∀ s caller p, allowed s (.user (.ofRepay caller p)))
    {history : List (Transition State Transaction)} (hs : Reachable transactions s)
    (hrun : Run transactions s history s')
    (hallowed : ∀ t ∈ history, ∀ operation, t.label = .single operation → allowed t.pre operation)
    (hinv : inv s) : inv s' ∧ ∀ t ∈ history, inv t.post := by
  have htransaction : ∀ m (transaction : Transaction) m', Reachable transactions m →
      (∀ operation, transaction = .single operation → allowed m operation) → inv m →
        transaction.run m = .ok m' → inv m' := fun m transaction m' hm hallowed hinv h =>
    Transaction.preserves hstep hborrow hrepay (reachable_operations hm) hallowed hinv h
  exact hrun.preserves htransaction hs hallowed hinv

end Confetti
