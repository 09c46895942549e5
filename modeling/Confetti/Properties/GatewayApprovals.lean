import Confetti.Gateway.Approvals
import Confetti.Properties.PassThrough

/-! Approving the gateways is no risk for an account that does not call: neither their callers
nor their owners can use its approvals, except for a listed caller that borrows in its name. -/
namespace Confetti
open Outcome TransitionSystem

def WETHGatewayCall.borrowsFor : WETHGatewayCall → Option Address
  | .borrowETH _ _ _ onBehalfOf | .batchBorrowETH _ _ _ onBehalfOf => some onBehalfOf
  | _ => none

def PunkGatewayCall.borrowsFor : PunkGatewayCall → Option Address
  | .borrow _ _ _ onBehalfOf | .batchBorrow _ _ _ onBehalfOf => some onBehalfOf
  | .borrowETH _ _ onBehalfOf | .batchBorrowETH _ _ onBehalfOf => some onBehalfOf
  | _ => none

def GatewayCall.borrowsFor : GatewayCall → Option Address
  | .weth call => call.borrowsFor
  | .punk call => call.borrowsFor

def World.lists (w : World) (caller : Nat) : GatewayCall → Bool
  | .weth _ => w.wethWhitelist (.account caller)
  | .punk _ => w.punkWhitelist (.account caller)

def OwnedStep.ActsFor (n : Nat) (c : OwnedWorld) : OwnedStep → Prop
  | .gateway caller _ call =>
    c.world.lists caller call = true ∧ call.borrowsFor = some (.account n)
  | _ => False

def OwnedStep.Inside : OwnedStep → Prop
  | .outside .. => False
  | _ => True

instance (n : Nat) (c : OwnedWorld) : (step : OwnedStep) → Decidable (step.ActsFor n c)
  | .gateway _ _ _ => inferInstanceAs (Decidable (_ ∧ _))
  | .protocol _ | .owner .. | .outside .. => inferInstanceAs (Decidable False)

variable {setup : GatewaySetup} {n : Nat} {s₀ : State} {w₀ w : World} {c c' : OwnedWorld}
  {caller value : Nat} {history : List (Transition OwnedWorld OwnedStep)}

/-! ### Users of the gateways -/

theorem behalf_of_listed {listed : Prop} {borrows : Option Address} {onBehalfOf : Address}
    (h : listed → borrows ≠ some (.account n)) (hborrows : borrows = some onBehalfOf)
    (hlisted : listed) : onBehalfOf ≠ .account n :=
  fun heq => h hlisted (hborrows.trans (congrArg some heq))

theorem WETHGatewayCall.execute_intact {call : WETHGatewayCall} (h : Intact setup n s₀ w₀ w)
    (hn : setup.Outsider n) (hcaller : n ≠ caller)
    (hlisted : w.wethWhitelist (.account caller) = true → call.borrowsFor ≠ some (.account n)) :
    Ensures (Intact setup n s₀ w₀) (call.execute setup w caller value) := by
  cases call with
  | depositETH => exact WETHGateway.depositETH_intact h hn
  | withdrawETH => exact WETHGateway.withdrawETH_intact h hn hcaller
  | borrowETH amount nftAsset nftTokenId onBehalfOf =>
    exact WETHGateway.borrowETH_intact h hn hcaller (behalf_of_listed hlisted rfl)
  | batchBorrowETH amounts nftAssets nftTokenIds onBehalfOf =>
    exact WETHGateway.batchBorrowETH_intact h hn hcaller (behalf_of_listed hlisted rfl)
  | repayETH => exact (WETHGateway.repayETH_intact h hn).map fun _ hr => hr
  | batchRepayETH => exact (WETHGateway.batchRepayETH_intact h hn).map fun _ hr => hr
  | buyItNowETH => exact WETHGateway.buyItNowETH_intact h hn
  | redeemETH => exact (WETHGateway.redeemETH_intact h hn).map fun _ hr => hr
  | liquidateETH => exact (WETHGateway.liquidateETH_intact h hn).map fun _ hr => hr

theorem PunkGatewayCall.execute_intact {call : PunkGatewayCall} (h : Intact setup n s₀ w₀ w)
    (hn : setup.Outsider n) (hcaller : n ≠ caller)
    (hlisted : w.punkWhitelist (.account caller) = true → call.borrowsFor ≠ some (.account n)) :
    Ensures (Intact setup n s₀ w₀) (call.execute setup w caller value) := by
  cases call with
  | borrow reserveAsset amount punkIndex onBehalfOf =>
    exact PunkGateway.borrow_intact h hn hcaller (behalf_of_listed hlisted rfl)
  | batchBorrow reserveAssets amounts punkIndexs onBehalfOf =>
    exact PunkGateway.batchBorrow_intact h hn hcaller (behalf_of_listed hlisted rfl)
  | repay => exact (PunkGateway.repayItem_intact h hn hcaller).map fun _ hr => hr
  | batchRepay => exact (PunkGateway.batchRepay_intact h hn hcaller).map fun _ hr => hr
  | buyItNow => exact PunkGateway.buyItNow_intact h hn hcaller
  | redeem => exact (PunkGateway.redeem_intact h hn hcaller).map fun _ hr => hr
  | liquidate => exact (PunkGateway.liquidate_intact h hn hcaller).map fun _ hr => hr
  | borrowETH amount punkIndex onBehalfOf =>
    exact PunkGateway.borrowETH_intact h hn hcaller (behalf_of_listed hlisted rfl)
  | batchBorrowETH amounts punkIndexs onBehalfOf =>
    exact PunkGateway.batchBorrowETH_intact h hn hcaller (behalf_of_listed hlisted rfl)
  | repayETH => exact (PunkGateway.repayETH_intact h hn hcaller).map fun _ hr => hr
  | batchRepayETH => exact (PunkGateway.batchRepayETH_intact h hn hcaller).map fun _ hr => hr
  | buyItNowETH => exact PunkGateway.buyItNowETH_intact h hn
  | redeemETH => exact (PunkGateway.redeemETH_intact h hn).map fun _ hr => hr
  | liquidateETH => exact (PunkGateway.liquidateETH_intact h hn hcaller).map fun _ hr => hr

theorem GatewayCall.run_intact {call : GatewayCall} (h : Intact setup n s₀ w₀ w)
    (hn : setup.Outsider n) (hcaller : n ≠ caller)
    (hlisted : w.lists caller call = true → call.borrowsFor ≠ some (.account n)) :
    Ensures (Intact setup n s₀ w₀) (call.run setup w caller value) := by
  refine ensures_skip fun _ _ => ?_
  refine ensures_skip fun w₁ hsend => ?_
  have hfresh : Intact setup n s₀ w₀ { w with poolCalls := [] } := h.of_same rfl rfl rfl
  have h₁ := World.sendEther_intact hfresh (account_ne (some_ne hcaller)) w₁ hsend
  obtain ⟨-, rfl⟩ := World.sendEther_eq_ok.mp hsend
  cases call with
  | weth call => exact WETHGatewayCall.execute_intact h₁ hn hcaller hlisted
  | punk call => exact PunkGatewayCall.execute_intact h₁ hn hcaller hlisted

/-! ### Owners of the gateways -/

namespace World

variable {gateway amount tokenId : Nat} {token recipient spender nftAsset operator : Address}

theorem transferToken_intact (h : Intact setup n s₀ w₀ w) (hgateway : n ≠ gateway) :
    Ensures (Intact setup n s₀ w₀) (w.transferToken gateway token recipient amount) := by
  cases token with
  | cToken => exact call_intact h ⟨some_ne hgateway, fun _ _ _ => nofun⟩
  | debtToken => exact ensures_error _
  | zero | account | lendPool | lendPoolLoan | cNFT =>
    exact tokenCall_intact h (some_ne hgateway) nofun

theorem approveToken_intact (h : Intact setup n s₀ w₀ w) (hgateway : n ≠ gateway) :
    Ensures (Intact setup n s₀ w₀) (w.approveToken gateway token spender amount) := by
  cases token with
  | cToken => exact call_intact h ⟨some_ne hgateway, fun _ _ _ => nofun⟩
  | debtToken => exact ensures_error _
  | zero | account | lendPool | lendPoolLoan | cNFT =>
    exact tokenCall_intact h (some_ne hgateway) nofun

theorem transferNFT_intact (h : Intact setup n s₀ w₀ w) (hgateway : n ≠ gateway) :
    Ensures (Intact setup n s₀ w₀) (w.transferNFT gateway nftAsset recipient tokenId) := by
  have hown : Address.account gateway ≠ .account n := account_ne (some_ne hgateway)
  cases nftAsset with
  | cNFT => exact ensures_error _
  | zero | account | lendPool | lendPoolLoan | cToken | debtToken =>
    exact tokenCall_intact h (some_ne hgateway) hown

theorem approveNFTs_intact (h : Intact setup n s₀ w₀ w) (hgateway : n ≠ gateway) :
    Ensures (Intact setup n s₀ w₀) (w.approveNFTs gateway nftAsset operator) := by
  cases nftAsset with
  | cNFT => exact ensures_error _
  | zero | account | lendPool | lendPoolLoan | cToken | debtToken =>
    exact tokenCall_intact h (some_ne hgateway) nofun

theorem withWhitelist_intact {whitelisted : Gateway} {callers : List Address} {flag : Bool}
    (h : Intact setup n s₀ w₀ w) :
    Intact setup n s₀ w₀ (w.withWhitelist whitelisted callers flag) := by
  cases whitelisted with
  | weth => exact h.of_same rfl rfl rfl
  | punk => exact h.of_same rfl rfl rfl

end World

namespace OwnedWorld

theorem approvals_intact (h : Intact setup n s₀ w₀ w) (hn : setup.Outsider n) (gateway : Gateway) :
    Ensures (Intact setup n s₀ w₀) (approvals setup w gateway) := by
  cases gateway with
  | weth =>
    change Ensures _ (w.approveToken _ setup.wethAsset _ _)
    exact World.approveToken_intact h hn.wethGateway
  | punk =>
    refine (World.approveNFTs_intact h hn.punkGateway).bind fun w₁ h₁ => ?_
    exact World.approveNFTs_intact h₁ hn.punkGateway

theorem ownerCall_intact (h : Intact setup n s₀ w₀ c.world) (hn : setup.Outsider n)
    (gateway : Gateway) (call : OwnerCall) :
    Ensures (fun c' => Intact setup n s₀ w₀ c'.world) (c.ownerCall setup caller gateway call) := by
  have hgateway : n ≠ gateway.account setup := by
    cases gateway with
    | weth => exact hn.wethGateway
    | punk => exact hn.punkGateway
  cases call with
  | initializer =>
    refine ensures_skip fun _ _ => ?_
    exact (approvals_intact h hn gateway).bind fun _ hw => ensures_pure hw
  | authorizeLendPoolNFT =>
    refine ensures_skip fun _ _ => ensures_skip fun _ _ => ?_
    refine Ensures.map (ensures_foldlM _ (fun _ _ hw => ?_) h) fun _ hw => hw
    exact World.approveNFTs_intact hw hgateway
  | authorizeLendPoolERC20 =>
    refine ensures_skip fun _ _ => ensures_skip fun _ _ => ?_
    refine Ensures.map (ensures_foldlM _ (fun _ _ hw => ?_) h) fun _ hw => hw
    exact World.approveToken_intact hw hgateway
  | authorizeCallerWhitelist =>
    exact ensures_skip fun _ _ => ensures_pure (World.withWhitelist_intact h)
  | emergencyERC20Transfer =>
    exact ensures_skip fun _ _ => (World.transferToken_intact h hgateway).map fun _ hw => hw
  | emergencyERC721Transfer =>
    exact ensures_skip fun _ _ => (World.transferNFT_intact h hgateway).map fun _ hw => hw
  | emergencyPunksTransfer =>
    exact ensures_skip fun _ _ => (World.transferPunk_intact h hgateway).map fun _ hw => hw
  | emergencyEtherTransfer =>
    exact ensures_skip fun _ _ => (World.safeTransferETH_intact h hgateway).map fun _ hw => hw
  | transferOwnership =>
    exact ensures_skip fun _ _ => ensures_skip fun _ _ => ensures_pure h
  | renounceOwnership => exact ensures_skip fun _ _ => ensures_pure h

end OwnedWorld

/-! ### Runs -/

namespace OwnedStep

variable {step : OwnedStep}

theorem respects {operation : Operation} {s : State}
    (hcaller : operation.caller ≠ some n)
    (hgateways : operation.caller ≠ some setup.wethGateway ∧
      operation.caller ≠ some setup.punkGateway) :
    operation.Respects (setup.Trusted n) n s := by
  refine ⟨hcaller, fun m hm htrusted => ?_⟩
  rw [hm] at hcaller hgateways
  rcases htrusted with rfl | rfl | rfl
  · exact absurd rfl hcaller
  · exact absurd rfl hgateways.1
  · exact absurd rfl hgateways.2

theorem run_intact (h : Intact setup n s₀ w₀ c.world) (hn : setup.Outsider n)
    (hcaller : step.caller ≠ some n) (hacts : ¬step.ActsFor n c) (hinside : step.Inside) :
    Ensures (fun c' => Intact setup n s₀ w₀ c'.world) (step.run setup c) := by
  refine ensures_skip fun _ hrequire => ?_
  cases step with
  | protocol operation =>
    have hrespects := respects (s := c.world.state) hcaller (require_eq_ok.mp hrequire)
    exact (World.call_intact h hrespects).map fun _ hw => hw
  | gateway caller value call =>
    have hne : n ≠ caller := fun heq => hcaller (congrArg some heq.symm)
    have hlisted : c.world.lists caller call = true → call.borrowsFor ≠ some (.account n) :=
      fun hlist hborrows => hacts ⟨hlist, hborrows⟩
    exact (GatewayCall.run_intact h hn hne hlisted).map fun _ hw => hw
  | owner caller called call => exact OwnedWorld.ownerCall_intact h hn called call
  | outside => exact absurd hinside not_false

theorem run_spared (hc : Reachable (ownedWorlds setup) c) (hn : setup.Outsider n)
    (hcaller : step.caller ≠ some n) (hacts : ¬step.ActsFor n c)
    (h : Spared (setup.Trusted n) n s₀ c.world.state) (hrun : step.run setup c = .ok c') :
    Spared (setup.Trusted n) n s₀ c'.world.state ∧ (step.Inside →
      Intact setup n s₀ c.world c'.world) := by
  have hintact : Intact setup n s₀ c.world c.world :=
    ⟨owned_reachable hc, h, Nat.le_refl _, fun _ howner => howner⟩
  cases step with
  | outside =>
    obtain ⟨_, -, hrun⟩ := bind_eq_ok.mp hrun
    obtain rfl := pure_eq_ok.mp hrun
    exact ⟨h, fun hinside => absurd hinside not_false⟩
  | protocol | gateway | owner =>
    have hkept := run_intact hintact hn hcaller hacts trivial c' hrun
    exact ⟨hkept.spared, fun _ => hkept⟩

end OwnedStep

theorem TrustsOnly.owned_run (hc : Reachable (ownedWorlds setup) c)
    (hrun : Run (ownedWorlds setup) c history c') (hn : setup.Outsider n)
    (hallowed : ∀ t ∈ history, t.label.caller ≠ some n ∧ ¬t.label.ActsFor n t.pre)
    (htrusts : TrustsOnly (setup.Trusted n) c.world.state n) :
    Spared (setup.Trusted n) n c.world.state c'.world.state ∧ ∀ t ∈ history,
      Spared (setup.Trusted n) n c.world.state t.post.world.state ∧
        (t.label.Inside → Intact setup n c.world.state t.pre.world t.post.world) := by
  let spared : OwnedWorld → Prop :=
    fun m => Spared (setup.Trusted n) n c.world.state m.world.state
  let allowed : OwnedWorld → OwnedStep → Prop :=
    fun m step => step.caller ≠ some n ∧ ¬step.ActsFor n m
  have hstart : spared c := htrusts.spared
  have hsteps : ∀ t ∈ history, allowed t.pre t.label := hallowed
  have hstep : ∀ m step m', Reachable (ownedWorlds setup) m → allowed m step → spared m →
      (ownedWorlds setup).step m step = .ok m' →
      spared m' ∧ (step.Inside → Intact setup n c.world.state m.world m'.world) := by
    intro m step m' hm hstep h hok
    exact OwnedStep.run_spared hm hn hstep.1 hstep.2 h hok
  have hkeep : ∀ m step m', Reachable (ownedWorlds setup) m → allowed m step → spared m →
      (ownedWorlds setup).step m step = .ok m' → spared m' :=
    fun m step m' hm hallow h hok => (hstep m step m' hm hallow h hok).1
  refine ⟨(Run.preserves hkeep hrun hc hsteps hstart).1, ?_⟩
  refine Run.observes (fun m step m' hm hallow h hok => ?_) hrun hc hsteps hstart
  have hdone := hstep m step m' hm hallow h hok
  exact ⟨hdone.1, hdone⟩

/-- An account that has approved nobody but the gateways and contracts of the protocol, and that
calls nothing, loses nothing in the protocol, whatever the callers and owners of the gateways do,
as long as no listed caller borrows in its name. No step of theirs takes its ether or punks. -/
theorem gateways_deserve_approval (hc : Reachable (ownedWorlds setup) c)
    (hrun : Run (ownedWorlds setup) c history c') (hn : setup.Outsider n)
    (hidle : ∀ t ∈ history, t.label.caller ≠ some n)
    (hlisted : ∀ t ∈ history, ¬t.label.ActsFor n t.pre)
    (htrusts : TrustsOnly (setup.Trusted n) c.world.state n) :
    Unharmed (setup.Trusted n) c.world.state c'.world.state n ∧
      ∀ t ∈ history, Unharmed (setup.Trusted n) c.world.state t.post.world.state n ∧
        (t.label.Inside →
          t.pre.world.ether (.account n) ≤ t.post.world.ether (.account n) ∧
          ∀ punkIndex, t.pre.world.punks.punkIndexToAddress punkIndex = .account n →
            t.post.world.punks.punkIndexToAddress punkIndex = .account n) := by
  have hallowed := fun t ht => And.intro (hidle t ht) (hlisted t ht)
  obtain ⟨hlast, hall⟩ := htrusts.owned_run hc hrun hn hallowed
  refine ⟨hlast.unharmed, fun t ht => ⟨(hall t ht).1.unharmed, fun hinside => ?_⟩⟩
  have hintact := (hall t ht).2 hinside
  exact ⟨hintact.ether, hintact.punks⟩

/-! ### Entrusted deposits -/

theorem TrustsOnly.approveCToken {trusted : Nat → Prop} {s s' : State} {asset : Address}
    {m amount : Nat} (h : TrustsOnly trusted s n) (hm : trusted m)
    (hrun : (UserCall.approveCToken n asset (.account m) amount).run s = .ok s') :
    TrustsOnly trusted s' n := by
  obtain ⟨own, -, hrun⟩ := bind_eq_ok.mp hrun
  obtain ⟨ledger, happrove, rfl⟩ := bind_pure_eq_ok.mp hrun
  obtain ⟨-, rfl⟩ := ERC20.approve_eq_ok.mp happrove
  refine ⟨h.tokens, fun other other' hother => ?_, h.credit, h.operators⟩
  have hold := h.deposits other other' hother
  have hne : Address.account other' ≠ .account m := by
    intro heq
    rw [Address.account.inj heq] at hother
    exact hother hm
  by_cases heq : other = own
  · rw [heq] at hold ⊢
    simp only [CToken.withLedger, Function.update_self, ERC20.allowed,
      Function.update_of_ne hne]
    exact hold
  · simp only [CToken.withLedger, Function.update_of_ne heq]
    exact hold

theorem OwnedStep.protocol_world {operation : Operation}
    (h : (ownedWorlds setup).step c (.protocol operation) = .ok c') :
    operation.run c.world.state = .ok c'.world.state := by
  obtain ⟨_, -, h⟩ := bind_eq_ok.mp h
  obtain ⟨w, hcall, rfl⟩ := map_eq_ok.mp h
  obtain ⟨s', hrun, rfl⟩ := World.call_eq_ok.mp hcall
  exact hrun

def sampleOwned : OwnedWorld where
  world := { sampleServing with
    state := sampleWorld
    wethWhitelist := fun _ => false }
  control := fun _ => ⟨false, .zero⟩

theorem sampleOwned_reachable : Reachable (ownedWorlds sampleSetup) sampleOwned := by
  apply Reachable.initial
  have hgenesis : sampleOwned.Genesis :=
    ⟨State.fresh_genesis (by decide) _ _ _, rfl, rfl, rfl⟩
  exact hgenesis

/-- The gateway is put to service while account 4 is given a deposit. -/
def sampleService : List OwnedStep :=
  .owner 0 .weth .initializer :: sampleGifts.map .protocol

def sampleTrust : OwnedStep :=
  .protocol (.user (.approveCToken 4 sampleMarket.asset (.account 101) (10 ^ 24)))

/-- The owner, a caller that it lists and a customer of the gateway, who reach for that deposit. -/
def sampleGreed : List OwnedStep :=
  [.protocol (.world (.tick 86400)),
    .owner 0 .weth (.authorizeCallerWhitelist [.account 5] true),
    .gateway 5 0 (.weth (.withdrawETH (10 ^ 18) (.account 4))),
    .gateway 3 (10 ^ 19) (.weth (.depositETH (.account 3))),
    .protocol (.user (.approveCToken 3 sampleMarket.asset (.account 101) (10 ^ 24))),
    .gateway 3 0 (.weth (.withdrawETH (10 ^ 18) (.account 3))),
    .owner 0 .weth (.emergencyERC20Transfer (.cToken sampleMarket.asset) (.account 0) 1)]

theorem sampleOutsider : sampleSetup.Outsider 4 := by
  refine ⟨?_, ?_, ?_, ?_, ?_⟩ <;> decide

theorem sampleTrust_given (hc : Reachable (ownedWorlds sampleSetup) c)
    (h : TrustsOnly (sampleSetup.Trusted 4) c.world.state 4)
    (hpass : passes ((ownedWorlds sampleSetup).step c sampleTrust) (fun _ => true) = true) :
    Reachable (ownedWorlds sampleSetup) (replayed (ownedWorlds sampleSetup) c [sampleTrust]) ∧
      TrustsOnly (sampleSetup.Trusted 4)
        (replayed (ownedWorlds sampleSetup) c [sampleTrust]).world.state 4 := by
  obtain ⟨c₁, htrust, -⟩ := exists_of_passes hpass
  have hafter : replayed (ownedWorlds sampleSetup) c [sampleTrust] = c₁ := by
    simp only [replayed, htrust]
  rw [hafter]
  exact ⟨.step hc htrust,
    h.approveCToken (.inr (.inl rfl)) (OwnedStep.protocol_world htrust)⟩

theorem gateways_deserve_approval_greed :
    let c₁ := replayed (ownedWorlds sampleSetup) sampleOwned sampleService
    let c := replayed (ownedWorlds sampleSetup) c₁ [sampleTrust]
    let c' := replayed (ownedWorlds sampleSetup) c sampleGreed
    Unharmed (sampleSetup.Trusted 4) c.world.state c'.world.state 4 ∧
      ∀ t ∈ trace (ownedWorlds sampleSetup) c sampleGreed,
        Unharmed (sampleSetup.Trusted 4) c.world.state t.post.world.state 4 := by
  intro c₁ c c'
  have hserved : Run (ownedWorlds sampleSetup) sampleOwned _ c₁ := trace_run _ sampleService
  have hc₁ : Reachable (ownedWorlds sampleSetup) c₁ := hserved.reachable sampleOwned_reachable
  have htrusts₁ : TrustsOnly (sampleSetup.Trusted 4) c₁.world.state 4 :=
    (sampleWorld_trusts.owned_run sampleOwned_reachable hserved sampleOutsider
      (by decide +kernel)).1.trustsOnly
  have hgiven : Reachable (ownedWorlds sampleSetup) c ∧
      TrustsOnly (sampleSetup.Trusted 4) c.world.state 4 :=
    sampleTrust_given hc₁ htrusts₁ (by decide +kernel)
  have hgreed : Run (ownedWorlds sampleSetup) c (trace _ c sampleGreed) c' :=
    trace_run c sampleGreed
  obtain ⟨hlast, hall⟩ := gateways_deserve_approval hgiven.1 hgreed sampleOutsider
    (by decide +kernel) (by decide +kernel) hgiven.2
  exact ⟨hlast, fun t ht => (hall t ht).1⟩

end Confetti
