import Confetti.Callbacks.Simulation
import Confetti.Callbacks.System
import Confetti.Library.Refinement

/-! What a tree of calls does while NFTs are out, a sequence of calls does with all NFTs at
home: every kind of call keeps this up when what its receivers do keeps it up. -/
namespace Confetti
open Outcome TransitionSystem

/-- The storage with NFTs elsewhere has come from one with them at home. -/
def Tracks (out : Address → Nat → Prop) (s c : State) : Prop :=
  ∃ s', Reaches operations s s' ∧ s'.pool.paused = s.pool.paused ∧ Matches out s' c

/-- Whatever NFTs are out, the callback does nothing that calls without callbacks cannot do. -/
def Safe (callback : Callback) : Prop :=
  ∀ out s g g', Reachable operations s → Matches out s g.state → callback g = .ok g' →
    g'.entered = g.entered ∧ Tracks out s g'.state

variable {out out' : Address → Nat → Prop} {s s' c c' : State} {g g' : Execution}
  {asset : Address} {tokenId n : Nat}

theorem Tracks.of_matches (h : Matches out s c) : Tracks out s c := ⟨s, Reaches.refl s, rfl, h⟩

theorem Tracks.of_step {operation : Operation} (h : operation.run s = .ok s')
    (hpaused : s'.pool.paused = s.pool.paused) (hm : Matches out s' c) : Tracks out s c := by
  have hstep : operations.step s operation = .ok s' := h
  exact ⟨s', .step hstep, hpaused, hm⟩

theorem Tracks.bind (hs : Reachable operations s) (h : Tracks out s c)
    (hnext : ∀ s', Reachable operations s' → s'.pool.paused = s.pool.paused → Matches out s' c →
      Tracks out' s' c') : Tracks out' s c' := by
  obtain ⟨m, hm, hpaused, hmatches⟩ := h
  obtain ⟨s', hs', hpaused', hmatches'⟩ := hnext m (hm.reachable hs) hpaused hmatches
  exact ⟨s', hm.trans hs', hpaused'.trans hpaused, hmatches'⟩

theorem Matches.paused (h : Matches out s c) : c.pool.paused = s.pool.paused := by
  obtain ⟨_, rfl, -⟩ := h
  rfl

/-! ### Single calls -/

theorem UserCall.paused {call : UserCall} (hreg : Regular s) (h : call.run s = .ok s') :
    s'.pool.paused = s.pool.paused := by
  rcases UserCall.cases hreg.sound.wired hreg.book.toFiled h with haction | ⟨haside, -⟩
  · obtain ⟨_, _, _, _, _, hsettled⟩ := haction.settled
    exact hsettled.step.paused
  · obtain ⟨_, _, _, rfl⟩ := UserCall.frame haside h
    rfl

theorem UserCall.tracks {call : UserCall} (hs : Reachable operations s) (hm : Matches out s c)
    (h : call.run c = .ok c') : Tracks out s c' := by
  obtain ⟨s', hs', hm'⟩ := UserCall.follow hs hm h
  have hstep : Operation.run s (.user call) = .ok s' := hs'
  exact .of_step hstep (UserCall.paused (regular_of_reachable hs) hs') hm'

theorem TokenCall.tracks {call : TokenCall} (hs : Reachable operations s) (hm : Matches out s c)
    (h : call.run c = .ok c') : Tracks out s c' := by
  obtain ⟨s', rfl | hs', hm'⟩ := TokenCall.follow hs hm h
  · exact .of_matches hm'
  · have hstep : Operation.run s (.token call) = .ok s' := hs'
    have hpaused : s'.pool.paused = s.pool.paused := by
      obtain ⟨_, _, _, _, rfl⟩ := TokenCall.frame hs'
      rfl
    exact .of_step hstep hpaused hm'

/-! ### Building blocks -/

theorem safe_pure : Safe pure := by
  intro out s g g' _ hm h
  obtain rfl := pure_eq_ok.mp h
  exact ⟨rfl, .of_matches hm⟩

theorem Safe.after {callback : Callback} (h : Safe callback) (hs : Reachable operations s)
    (htracks : Tracks out s g.state) (hrun : callback g = .ok g') :
    g'.entered = g.entered ∧ Tracks out s g'.state := by
  obtain ⟨m, hreach, hpaused, hm⟩ := htracks
  obtain ⟨hentered, s', hreach', hpaused', hm'⟩ := h out m g g' (hreach.reachable hs) hm hrun
  exact ⟨hentered, s', hreach.trans hreach', hpaused'.trans hpaused, hm'⟩

theorem Safe.bind {first next : Callback} (hfirst : Safe first) (hnext : Safe next) :
    Safe fun g => first g >>= next := by
  intro out s g g' hs hm h
  obtain ⟨m, hrun, h⟩ := bind_eq_ok.mp h
  obtain ⟨hentered, htracks⟩ := hfirst out s g m hs hm hrun
  obtain ⟨hentered', htracks'⟩ := hnext.after hs htracks h
  exact ⟨hentered'.trans hentered, htracks'⟩

theorem Safe.nonReentrant {body : Callback} (h : Safe body) :
    Safe (Execution.nonReentrant body) := by
  intro out s g g' hs hm hrun
  obtain ⟨_, hfree, hrun⟩ := bind_eq_ok.mp hrun
  obtain ⟨m, hbody, hrun⟩ := bind_eq_ok.mp hrun
  obtain rfl := pure_eq_ok.mp hrun
  have hsafe := h out s { g with entered := true } m hs hm hbody
  exact ⟨(require_eq_ok.mp hfree).symm, hsafe.2⟩

theorem Safe.received {callback : Callback} (recipient : Address) (h : Safe callback) :
    Safe fun g => g.received recipient callback := by
  intro out s g g' hs hm hrun
  by_cases hcode : g.hasCode recipient = true
  · simp only [Execution.received, if_pos hcode] at hrun
    exact h out s g g' hs hm hrun
  · simp only [Execution.received, if_neg hcode] at hrun
    exact safe_pure out s g g' hs hm hrun

theorem safe_of_tracks (program : State → Except Revert State)
    (h : ∀ out s c c', Reachable operations s → Matches out s c → program c = .ok c' →
      Tracks out s c') :
    Safe (fun g => do
      let state ← program g.state
      pure { g with state }) := by
  intro out s g g' hs hm hrun
  obtain ⟨c', hprogram, hrun⟩ := bind_eq_ok.mp hrun
  obtain rfl := pure_eq_ok.mp hrun
  exact ⟨rfl, h out s g.state c' hs hm hprogram⟩

/-! ### The pool -/

theorem repayItem_tracks {params : ExecuteRepayParams} {callback : Callback} {r : Nat × Bool}
    (hs : Reachable operations s) (hpaused : s.pool.paused = false) (hm : Matches out s g.state)
    (hcaller : params.initiator = .account n) (hcallback : Safe callback)
    (h : LendPool.repayItem g params callback = .ok (g', r)) :
    g'.entered = g.entered ∧ Tracks out s g'.state := by
  obtain ⟨⟨c, paid, closed⟩, hrepay, h⟩ := bind_eq_ok.mp h
  obtain ⟨m, hreceived, h⟩ := bind_eq_ok.mp h
  obtain ⟨rfl, -⟩ := Prod.mk.inj (pure_eq_ok.mp h)
  have hrun : UserCall.run g.state (.ofRepay n params) = .ok c := by
    apply run_ofRepay hcaller _ hrepay
    exact hm.paused.trans hpaused
  have hafter : ∀ borrower, Safe fun g => if closed then g.received borrower callback else pure g := by
    intro borrower
    cases closed with
    | false => exact safe_pure
    | true => exact hcallback.received borrower
  exact (hafter _).after (g := { g with state := c }) hs (UserCall.tracks hs hm hrun) hreceived

theorem repayEach_tracks {items : List ExecuteRepayParams} {callbacks : List Callback}
    (hs : Reachable operations s) (hpaused : s.pool.paused = false) (hm : Matches out s g.state)
    (hcaller : ∀ params ∈ items, params.initiator = .account n)
    (hcallbacks : ∀ callback ∈ callbacks, Safe callback)
    (h : LendPool.repayEach g items callbacks = .ok g') :
    g'.entered = g.entered ∧ Tracks out s g'.state := by
  induction items generalizing s g callbacks with
  | nil =>
    obtain rfl := pure_eq_ok.mp h
    exact ⟨rfl, .of_matches hm⟩
  | cons params items ih =>
    obtain ⟨⟨m, r⟩, hfirst, h⟩ := bind_eq_ok.mp h
    have hcallback : Safe (callbacks.headD pure) := by
      cases callbacks with
      | nil => exact safe_pure
      | cons callback callbacks => exact hcallbacks callback List.mem_cons_self
    obtain ⟨hentered, s', hreach, hsame, hm'⟩ :=
      repayItem_tracks hs hpaused hm (hcaller params List.mem_cons_self) hcallback hfirst
    obtain ⟨hentered', s'', hreach', hsame', hm''⟩ := ih (hreach.reachable hs)
      (hsame.trans hpaused) hm' (fun p hp => hcaller p (List.mem_cons_of_mem params hp))
      (fun callback hin => hcallbacks callback (List.mem_of_mem_tail hin)) h
    exact ⟨hentered'.trans hentered, s'', hreach.trans hreach', hsame'.trans hsame, hm''⟩

theorem Safe.repayWith {callback : Callback} (h : Safe callback) (nftAsset : Address)
    (nftTokenId amount : Nat) :
    Safe (LendPool.repayWith (.account n) nftAsset nftTokenId amount callback) := by
  apply Safe.nonReentrant
  intro out s g g' hs hm hrun
  obtain ⟨_, hstart, hrun⟩ := bind_eq_ok.mp hrun
  have hpaused : s.pool.paused = false := hm.paused.symm.trans (require_eq_ok.mp hstart)
  obtain ⟨⟨m, r⟩, hitem, hrun⟩ := bind_eq_ok.mp hrun
  obtain rfl := pure_eq_ok.mp hrun
  exact repayItem_tracks hs hpaused hm rfl h hitem

theorem safe_batchRepayWith {callbacks : List Callback}
    (h : ∀ callback ∈ callbacks, Safe callback) (nftAssets : List Address)
    (nftTokenIds amounts : List Nat) :
    Safe (LendPool.batchRepayWith (.account n) nftAssets nftTokenIds amounts callbacks) := by
  apply Safe.nonReentrant
  intro out s g g' hs hm hrun
  obtain ⟨_, hstart, hrun⟩ := bind_eq_ok.mp hrun
  have hpaused : s.pool.paused = false := hm.paused.symm.trans (require_eq_ok.mp hstart)
  obtain ⟨_, -, hrun⟩ := bind_eq_ok.mp hrun
  obtain ⟨_, -, hrun⟩ := bind_eq_ok.mp hrun
  exact repayEach_tracks hs hpaused hm repayItems_initiator h hrun

theorem Safe.liquidateWith {callback : Callback} (h : Safe callback) (nftAsset : Address)
    (nftTokenId amount : Nat) :
    Safe (LendPool.liquidateWith (.account n) nftAsset nftTokenId amount callback) := by
  apply Safe.nonReentrant
  intro out s g g' hs hm hrun
  obtain ⟨⟨c, paid⟩, hliquidate, hrun⟩ := bind_eq_ok.mp hrun
  have hcall : UserCall.run g.state (.liquidate n nftAsset nftTokenId amount) = .ok c :=
    map_eq_ok.mpr ⟨_, hliquidate, rfl⟩
  exact (h.received _).after (g := { g with state := c }) hs (UserCall.tracks hs hm hcall) hrun

theorem safe_batchBorrowWith (assets : List Address) (amounts : List Nat)
    (nftAssets : List Address) (nftTokenIds : List Nat) (onBehalfOf : Address) :
    Safe (LendPool.batchBorrowWith n assets amounts nftAssets nftTokenIds onBehalfOf) := by
  apply Safe.nonReentrant
  apply safe_of_tracks (LendPool.batchBorrow · (.account n) assets amounts nftAssets nftTokenIds
    onBehalfOf)
  intro out s c c' hs hm h
  obtain ⟨_, hstart, h⟩ := bind_eq_ok.mp h
  have hpaused : s.pool.paused = false := hm.paused.symm.trans (require_eq_ok.mp hstart)
  simp only [BorrowLogic.executeBatchBorrow, bind_eq_ok, require_eq_ok, exists_const] at h
  have hpass : ∀ m (p : ExecuteBorrowParams) m', p ∈ BorrowLogic.borrowItems
      { initiator := .account n, assets, amounts, nftAssets, nftTokenIds, onBehalfOf } →
        Tracks out s m → BorrowLogic.borrow m p = .ok m' → Tracks out s m' := by
    intro m p m' hp htracks hstep
    apply htracks.bind hs
    intro s' hs' hsame hm'
    have hrun : UserCall.run m (.ofBorrow n p) = .ok m' := by
      apply run_ofBorrow (borrowItems_initiator p hp) _ hstep
      exact hm'.paused.trans (hsame.trans hpaused)
    exact UserCall.tracks hs' hm' hrun
  exact foldlM_preserves _ hpass c c' (.of_matches hm) h.2.2.2

theorem Safe.userCall {callback : Callback} (h : Safe callback) (call : UserCall) :
    Safe fun g => call.runWith callback g := by
  have hplain := safe_of_tracks (UserCall.run · call) fun _ _ _ _ hs hm hrun =>
    UserCall.tracks hs hm hrun
  cases call with
  | repay => exact h.repayWith _ _ _
  | liquidate => exact h.liquidateWith _ _ _
  | deposit | withdraw | borrow | buyItNow | redeem => exact hplain.nonReentrant
  | _ => exact hplain

end Confetti
