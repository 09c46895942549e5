import Confetti.Callbacks.FlashLoans
import Confetti.Protocol.Deployment

/-! Receivers of NFTs that call back, and flash loans, reach no storage that plain calls do
not reach. A minter of receipts that calls back while its receipt is burned is left out: it
gets the NFT while the receipt is still there. -/
namespace Confetti
open Outcome TransitionSystem

/-! ### Calls within calls -/

mutual

/-- Nobody reacts to getting an NFT for a receipt about to be burned, or to the hand-over of
a flash loan; `executeOperation` may do anything. -/
def Call.orderly : Call → Bool
  | .user _ reaction => Call.allOrderly reaction
  | .token call reaction => (!call.burnsReceipt || reaction.isEmpty) && Call.allOrderly reaction
  | .batchBorrow .. => true
  | .batchRepay _ _ _ _ reactions => Call.eachOrderly reactions
  | .flashLoan _ _ _ _ reactions execution _ =>
    reactions.all List.isEmpty && Call.allOrderly execution

def Call.allOrderly : List Call → Bool
  | [] => true
  | call :: calls => call.orderly && Call.allOrderly calls

def Call.eachOrderly : List (List Call) → Bool
  | [] => true
  | reaction :: reactions => Call.allOrderly reaction && Call.eachOrderly reactions

end

def OuterCall.orderly : OuterCall → Bool
  | .account call => call.orderly
  | _ => true

theorem callbacks_idle {reactions : List (List Call)}
    (h : reactions.all List.isEmpty = true) :
    ∀ callback ∈ Call.callbacks reactions, callback = pure := by
  induction reactions with
  | nil => nofun
  | cons reaction reactions ih =>
    rw [List.all_cons, Bool.and_eq_true] at h
    intro callback hin
    rcases List.mem_cons.mp hin with rfl | hin
    · rw [List.isEmpty_iff.mp h.1]
      rfl
    · exact ih h.2 callback hin

mutual

theorem Call.safe : ∀ call : Call, call.orderly = true → Safe call.run
  | .user call reaction, h => (Call.safeAll reaction h).userCall call
  | .token call reaction, h => by
    obtain ⟨hidle, hreaction⟩ := Bool.and_eq_true_iff.mp h
    apply (Call.safeAll reaction hreaction).tokenCall
    intro hburn
    rw [hburn, Bool.not_true, Bool.false_or] at hidle
    rw [List.isEmpty_iff.mp hidle]
    rfl
  | .batchBorrow .., _ => safe_batchBorrowWith _ _ _ _ _
  | .batchRepay _ _ _ _ reactions, h => safe_batchRepayWith (Call.safeEach reactions h) _ _ _
  | .flashLoan _ _ _ _ reactions execution _, h => by
    obtain ⟨hidle, hexecution⟩ := Bool.and_eq_true_iff.mp h
    exact (Call.safeAll execution hexecution).flashLoan (callbacks_idle hidle) _ _ _ _

theorem Call.safeAll : ∀ calls : List Call, Call.allOrderly calls = true → Safe (Call.runAll calls)
  | [], _ => safe_pure
  | call :: calls, h => by
    obtain ⟨hcall, hcalls⟩ := Bool.and_eq_true_iff.mp h
    exact (Call.safe call hcall).bind (Call.safeAll calls hcalls)

theorem Call.safeEach : ∀ reactions : List (List Call), Call.eachOrderly reactions = true →
    ∀ callback ∈ Call.callbacks reactions, Safe callback
  | [], _ => nofun
  | reaction :: reactions, h => by
    obtain ⟨hreaction, hreactions⟩ := Bool.and_eq_true_iff.mp h
    intro callback hin
    rcases List.mem_cons.mp hin with rfl | hin
    · exact Call.safeAll reaction hreaction
    · exact Call.safeEach reactions hreactions callback hin

end

/-! ### Runs -/

/-- What calls within calls have led to, if all of them were orderly. -/
def ReachedOrderly (g : Execution) : Prop :=
  ∃ start history, callbacks.initial start ∧ Run callbacks start history g ∧
    ∀ t ∈ history, t.label.orderly = true

theorem OuterCall.refines {g g' : Execution} {call : OuterCall} (horderly : call.orderly = true)
    (hs : Reachable operations g.state) (h : call.run g = .ok g') :
    Reachable operations g'.state ∧ g'.entered = g.entered := by
  cases call with
  | account call =>
    obtain ⟨hentered, s', hreach, -, hm⟩ :=
      Call.safe call horderly (fun _ _ => False) g.state g g' hs (.refl _ _) h
    rw [hm.eq]
    exact ⟨hreach.reachable hs, hentered⟩
  | admin call =>
    obtain ⟨s', hrun, rfl⟩ := bind_pure_eq_ok.mp h
    have hstep : operations.step g.state (.admin call) = .ok s' := hrun
    exact ⟨.step hs hstep, rfl⟩
  | world event =>
    obtain ⟨s', hrun, rfl⟩ := bind_pure_eq_ok.mp h
    have hstep : operations.step g.state (.world event) = .ok s' := hrun
    exact ⟨.step hs hstep, rfl⟩

def Operation.outer : Operation → OuterCall
  | .user call => .account (.user call [])
  | .token call => .account (.token call [])
  | .admin call => .admin call
  | .world event => .world event

theorem Operation.outer_orderly (operation : Operation) : operation.outer.orderly = true := by
  cases operation with
  | token call => simp [outer, OuterCall.orderly, Call.orderly, Call.allOrderly]
  | _ => rfl

theorem nonReentrant_free {body : Callback} {s s' : State}
    (h : body ⟨s, true⟩ = .ok ⟨s', true⟩) :
    Execution.nonReentrant body ⟨s, false⟩ = .ok ⟨s', false⟩ :=
  bind_eq_ok.mpr ⟨(), require_of rfl, bind_eq_ok.mpr ⟨_, h, rfl⟩⟩

theorem received_pure (g : Execution) (recipient : Address) : g.received recipient pure = .ok g :=
  ite_self _

theorem repayWith_pure {s s' : State} {caller nftAsset : Address} {nftTokenId amount : Nat}
    {r : Nat × Bool} (h : LendPool.repay s caller nftAsset nftTokenId amount = .ok (s', r)) :
    LendPool.repayWith caller nftAsset nftTokenId amount pure ⟨s, false⟩ = .ok ⟨s', false⟩ := by
  obtain ⟨_, hstart, hrepay⟩ := bind_eq_ok.mp h
  unfold LendPool.repayWith
  apply nonReentrant_free
  refine bind_eq_ok.mpr ⟨(), hstart, bind_pure_eq_ok.mpr ⟨(_, r), ?_, rfl⟩⟩
  refine bind_eq_ok.mpr ⟨_, hrepay, bind_pure_eq_ok.mpr ⟨_, ?_, rfl⟩⟩
  split
  · exact received_pure _ _
  · rfl

theorem liquidateWith_pure {s s' : State} {caller nftAsset : Address}
    {nftTokenId amount paid : Nat}
    (h : LendPool.liquidate s caller nftAsset nftTokenId amount = .ok (s', paid)) :
    LendPool.liquidateWith caller nftAsset nftTokenId amount pure ⟨s, false⟩ =
      .ok ⟨s', false⟩ := by
  unfold LendPool.liquidateWith
  apply nonReentrant_free
  exact bind_eq_ok.mpr ⟨_, h, received_pure _ _⟩

theorem UserCall.runWith_pure {s s' : State} {call : UserCall} (h : call.run s = .ok s') :
    call.runWith pure ⟨s, false⟩ = .ok ⟨s', false⟩ := by
  have hplain : ∀ entered, (do
      let state ← call.run s
      pure ⟨state, entered⟩ : Except Revert Execution) = .ok ⟨s', entered⟩ :=
    fun entered => bind_pure_eq_ok.mpr ⟨s', h, rfl⟩
  have hguarded : Execution.nonReentrant (fun g => do
      let state ← call.run g.state
      pure { g with state }) ⟨s, false⟩ = .ok ⟨s', false⟩ := by
    apply nonReentrant_free
    exact hplain true
  cases call with
  | repay caller nftAsset nftTokenId amount =>
    obtain ⟨⟨_, r⟩, hrepay, rfl⟩ := map_eq_ok.mp h
    exact repayWith_pure hrepay
  | liquidate caller nftAsset nftTokenId amount =>
    obtain ⟨⟨_, paid⟩, hliquidate, rfl⟩ := map_eq_ok.mp h
    exact liquidateWith_pure hliquidate
  | deposit | withdraw | borrow | buyItNow | redeem => exact hguarded
  | _ => exact hplain false

theorem TokenCall.runWith_pure {g : Execution} {s' : State} {call : TokenCall}
    (h : call.run g.state = .ok s') : call.runWith pure g = .ok { g with state := s' } := by
  cases call with
  | safeTransferNFT => exact bind_eq_ok.mpr ⟨s', h, received_pure _ _⟩
  | burnCNFT => exact burnWith_pure.mpr ⟨h, rfl⟩
  | _ => exact bind_pure_eq_ok.mpr ⟨s', h, rfl⟩

theorem Operation.outer_run {s s' : State} {operation : Operation} (h : operation.run s = .ok s') :
    operation.outer.run ⟨s, false⟩ = .ok ⟨s', false⟩ := by
  cases operation with
  | user call => exact UserCall.runWith_pure h
  | token call => exact TokenCall.runWith_pure h
  | admin call => exact bind_pure_eq_ok.mpr ⟨s', h, rfl⟩
  | world event => exact bind_pure_eq_ok.mpr ⟨s', h, rfl⟩

theorem reachedOrderly_of_reachable {s : State} (hs : Reachable operations s) :
    ReachedOrderly ⟨s, false⟩ := by
  induction hs with
  | @initial s hs => exact ⟨⟨s, false⟩, [], ⟨hs, rfl⟩, .nil _, nofun⟩
  | @step s s' operation _ hstep ih =>
    obtain ⟨start, history, hinit, hrun, horderly⟩ := ih
    have hlast : callbacks.step ⟨s, false⟩ operation.outer = .ok ⟨s', false⟩ :=
      Operation.outer_run hstep
    refine ⟨start, _, hinit, hrun.snoc hlast, ?_⟩
    intro t ht
    rcases List.mem_append.mp ht with ht | ht
    · exact horderly t ht
    · cases List.mem_singleton.mp ht
      exact operation.outer_orderly

/-- Receivers that call back, and flash loans, lead nowhere that calls without callbacks do
not lead, and the pool's guard is free after each transaction. -/
theorem callbacks_reach_same_states (g : Execution) :
    ReachedOrderly g ↔ Reachable operations g.state ∧ g.entered = false := by
  constructor
  · rintro ⟨start, history, hinit, hrun, horderly⟩
    have hstep : ∀ m (call : OuterCall) m', Reachable callbacks m → call.orderly = true →
        (Reachable operations m.state ∧ m.entered = false) → call.run m = .ok m' →
          Reachable operations m'.state ∧ m'.entered = false := by
      intro m call m' _ hcall hm h
      obtain ⟨hreach, hentered⟩ := OuterCall.refines hcall hm.1 h
      exact ⟨hreach, hentered.trans hm.2⟩
    exact (hrun.preserves hstep (.initial hinit) horderly ⟨.initial hinit.1, hinit.2⟩).1
  · rintro ⟨hs, hfree⟩
    obtain ⟨s, entered⟩ := g
    subst hfree
    exact reachedOrderly_of_reachable hs

/-- The borrower lends its NFT out of the wrapper; the receiver passes it around, repays a
part of the debt, and lets the wrapper fetch it. -/
def sampleFlashLoan : Call :=
  .flashLoan 2 sampleMarket.nftAsset (.account 101) [7] []
    [.token (.setApprovalForAll 101 sampleMarket.nftAsset (.cNFT sampleMarket.nftAsset) true) [],
      .token (.safeTransferNFT 101 sampleMarket.nftAsset (.account 101) (.account 102) 7)
        [.token (.safeTransferNFT 102 sampleMarket.nftAsset (.account 102) (.account 101) 7) []],
      .user (.repay 2 sampleMarket.nftAsset 7 (10 ^ 18)) []] true

example : passes (sampleFlashLoan.run ⟨sampleLent, false⟩) (fun g => !g.entered) = true := by
  decide +kernel

/-- Account 102 wraps its NFT. -/
def sampleWrapped : State :=
  replayed operations sampleWorld
    (sampleMarket.opening ++ sampleMarket.funding 1 (10 ^ 24) ++ sampleMarket.minting 102 7 ++
      [.user (.deposit 1 sampleMarket.asset (1000 * 10 ^ 18) (.account 1)),
        .token (.setApprovalForAll 102 sampleMarket.nftAsset (.cNFT sampleMarket.nftAsset) true),
        .token (.mintCNFT 102 sampleMarket.nftAsset (.account 102) 7)])

/-- While it burns the receipt and already has the NFT, it puts the NFT back, burns the receipt
there and then, and borrows against the NFT. -/
def sampleReburning : Call :=
  .token (.burnCNFT 102 sampleMarket.nftAsset 7)
    [.token (.transferNFT 102 sampleMarket.nftAsset (.account 102)
        (.cNFT sampleMarket.nftAsset) 7) [],
      .token (.burnCNFT 102 sampleMarket.nftAsset 7) [],
      .user (.borrow 102 sampleMarket.asset (10 * 10 ^ 18) sampleMarket.nftAsset 7
        (.account 102)) []]

/-- The burn that is resumed deletes the receipt of the loan, which nobody can repay then. -/
theorem reburning_escapes : ∃ g, Reachable callbacks g ∧ ¬Reachable operations g.state := by
  obtain ⟨g, hrun, hcheck⟩ := exists_of_passes (show passes
    (sampleReburning.run ⟨sampleWrapped, false⟩) (fun g =>
      decide (g.state.loanStore.nftToLoanIds sampleMarket.nftAsset 7 ≠ 0 ∧
        (g.state.cNFTs sampleMarket.nftAsset).owners 7 = .zero)) = true by decide +kernel)
  obtain ⟨hregistered, hreceipt⟩ := of_decide_eq_true hcheck
  have hwrapped : Reachable operations sampleWrapped := fresh_reachable (by decide) _ _ _ _
  obtain ⟨start, history, hinit, hbefore, -⟩ := reachedOrderly_of_reachable hwrapped
  have hlast : callbacks.step ⟨sampleWrapped, false⟩ (.account sampleReburning) = .ok g := hrun
  refine ⟨g, .step (hbefore.reachable (.initial hinit)) hlast, fun hs => ?_⟩
  have hbook := (regular_of_reachable hs).book
  obtain ⟨hlive, hasset, htoken⟩ := hbook.filed _ _ hregistered
  have hcustody := hbook.custody _ hlive
  change InCustody g.state (g.state.loanOf sampleMarket.nftAsset 7).nftAsset
    (g.state.loanOf sampleMarket.nftAsset 7).nftTokenId _ at hcustody
  rw [hasset, htoken] at hcustody
  exact hcustody.borrower_ne (hcustody.receipt.symm.trans hreceipt)

end Confetti
