import Confetti.Gateway.Owners

/-! What an account that has approved the gateways keeps, whatever the others do with them: the
gateways take only from who calls them, and from those for whom a listed caller acts. -/
namespace Confetti
open Outcome TransitionSystem

/-- Whom an account that uses the gateways trusts. -/
def GatewaySetup.Trusted (setup : GatewaySetup) (n m : Nat) : Prop :=
  m = n ∨ m = setup.wethGateway ∨ m = setup.punkGateway

/-- The account is none of the contracts around the gateways. -/
structure GatewaySetup.Outsider (setup : GatewaySetup) (n : Nat) : Prop where
  weth : n ≠ setup.weth
  wethGateway : n ≠ setup.wethGateway
  punkGateway : n ≠ setup.punkGateway
  wrappedPunks : n ≠ setup.wrappedPunks
  proxy : n ≠ setup.proxy

/-- The account has what it had in `s₀`, and the ether and punks it had in `w₀`. -/
structure Intact (setup : GatewaySetup) (n : Nat) (s₀ : State) (w₀ w : World) : Prop where
  reachable : Reachable operations w.state
  spared : Spared (setup.Trusted n) n s₀ w.state
  ether : w₀.ether (.account n) ≤ w.ether (.account n)
  punks : ∀ punkIndex, w₀.punks.punkIndexToAddress punkIndex = .account n →
    w.punks.punkIndexToAddress punkIndex = .account n

variable {setup : GatewaySetup} {n : Nat} {s₀ : State} {w₀ w w' : World}
  {operation : Operation}

theorem some_ne {m : Nat} (h : n ≠ m) : some m ≠ some n := fun heq => h (Option.some.inj heq).symm

namespace Intact

theorem of_same (h : Intact setup n s₀ w₀ w) (hstate : w'.state = w.state)
    (hether : w'.ether = w.ether) (hpunks : w'.punks = w.punks) : Intact setup n s₀ w₀ w' := by
  obtain ⟨hreachable, hspared, hmoney, howned⟩ := h
  rw [← hstate] at hreachable hspared
  rw [← hether] at hmoney
  rw [← hpunks] at howned
  exact ⟨hreachable, hspared, hmoney, howned⟩

theorem operate (h : Intact setup n s₀ w₀ w)
    (hrespects : operation.Respects (setup.Trusted n) n w.state)
    (hrun : operation.run w.state = .ok w'.state) (hether : w'.ether = w.ether)
    (hpunks : w'.punks = w.punks) : Intact setup n s₀ w₀ w' where
  reachable := .step h.reachable hrun
  spared := h.spared.step (regular_of_reachable h.reachable) hrespects hrun
  ether := by
    rw [hether]
    exact h.ether
  punks := by
    rw [hpunks]
    exact h.punks

end Intact

/-! ### What a gateway's code can do -/

namespace World

variable {caller punkIndex amount nftTokenId value : Nat} {sender recipient nftAsset : Address}

theorem call_intact (h : Intact setup n s₀ w₀ w)
    (hrespects : operation.Respects (setup.Trusted n) n w.state) :
    Ensures (Intact setup n s₀ w₀) (w.call operation) := by
  intro w' hcall
  obtain ⟨s', hrun, rfl⟩ := call_eq_ok.mp hcall
  exact h.operate hrespects hrun rfl rfl

theorem tokenCall_intact {call : TokenCall} (h : Intact setup n s₀ w₀ w)
    (hcaller : call.caller ≠ some n) (hdraws : ¬call.Draws n w.state) :
    Ensures (Intact setup n s₀ w₀) (w.call (.token call)) :=
  call_intact h ⟨hcaller, fun _ _ _ => hdraws⟩

theorem callPool_intact {poolCall : UserCall} (h : Intact setup n s₀ w₀ w)
    (hcaller : poolCall.caller ≠ some n) (hdraws : ¬poolCall.Draws n) :
    Ensures (Intact setup n s₀ w₀) (w.callPool poolCall) := by
  intro w' hcall
  obtain ⟨s', hrun, rfl⟩ := callPool_eq_ok.mp hcall
  have hstep : (Operation.user poolCall).run w.state = .ok s' := hrun
  have hrespects : (Operation.user poolCall).Respects (setup.Trusted n) n w.state :=
    ⟨hcaller, fun _ _ _ => hdraws⟩
  exact h.operate hrespects hstep rfl rfl

private theorem called_intact {poolCall : UserCall} {s' : State} (h : Intact setup n s₀ w₀ w)
    (hcaller : poolCall.caller ≠ some n) (hdraws : ¬poolCall.Draws n)
    (hrun : poolCall.run w.state = .ok s') : Intact setup n s₀ w₀ (w.called poolCall s') :=
  callPool_intact h hcaller hdraws _ (callPool_eq_ok.mpr ⟨s', hrun, rfl⟩)

theorem repay_intact (h : Intact setup n s₀ w₀ w) (hcaller : n ≠ caller) :
    Ensures (fun r => Intact setup n s₀ w₀ r.1) (w.repay caller nftAsset nftTokenId amount) := by
  intro r hrepay
  obtain ⟨r, hrun, rfl⟩ := bind_pure_eq_ok.mp hrepay
  exact called_intact h (some_ne hcaller) nofun (map_eq_ok.mpr ⟨r, hrun, rfl⟩)

theorem redeem_intact {buyItNowFine : Nat} (h : Intact setup n s₀ w₀ w) (hcaller : n ≠ caller) :
    Ensures (fun r => Intact setup n s₀ w₀ r.1)
      (w.redeem caller nftAsset nftTokenId amount buyItNowFine) := by
  intro r hredeem
  obtain ⟨r, hrun, rfl⟩ := bind_pure_eq_ok.mp hredeem
  exact called_intact h (some_ne hcaller) nofun (map_eq_ok.mpr ⟨r, hrun, rfl⟩)

theorem liquidate_intact (h : Intact setup n s₀ w₀ w) (hcaller : n ≠ caller) :
    Ensures (fun r => Intact setup n s₀ w₀ r.1)
      (w.liquidate caller nftAsset nftTokenId amount) := by
  intro r hliquidate
  obtain ⟨r, hrun, rfl⟩ := bind_pure_eq_ok.mp hliquidate
  exact called_intact h (some_ne hcaller) nofun (map_eq_ok.mpr ⟨r, hrun, rfl⟩)

theorem sendEther_intact (h : Intact setup n s₀ w₀ w) (hsender : sender ≠ .account n) :
    Ensures (Intact setup n s₀ w₀) (w.sendEther sender recipient value) := by
  intro w' hsend
  obtain ⟨-, rfl⟩ := sendEther_eq_ok.mp hsend
  exact ⟨h.reachable, h.spared, h.ether.trans (ERC20.le_moved (Ne.symm hsender)), h.punks⟩

theorem depositWETH_intact (h : Intact setup n s₀ w₀ w) (hcaller : n ≠ caller) :
    Ensures (Intact setup n s₀ w₀) (w.depositWETH setup caller value) := by
  refine (sendEther_intact h (account_ne (some_ne hcaller))).bind fun w₁ h₁ => ?_
  exact tokenCall_intact h₁ nofun nofun

theorem withdrawWETH_intact (h : Intact setup n s₀ w₀ w) (hn : setup.Outsider n)
    (hcaller : n ≠ caller) :
    Ensures (Intact setup n s₀ w₀) (w.withdrawWETH setup caller value) := by
  refine Ensures.bind (tokenCall_intact h (some_ne hcaller) nofun) fun w₁ h₁ => ?_
  exact sendEther_intact h₁ (account_ne (some_ne hn.weth))

theorem safeTransferETH_intact (h : Intact setup n s₀ w₀ w) (hcaller : n ≠ caller) :
    Ensures (Intact setup n s₀ w₀) (w.safeTransferETH setup caller recipient value) := by
  apply ensures_skip
  intro _ _
  apply ensures_ite
  · exact fun _ => depositWETH_intact h hcaller
  · intro _
    exact ensures_skip fun _ _ => sendEther_intact h (account_ne (some_ne hcaller))

theorem punk_intact {punks : CryptoPunks} {owner : Address} (h : Intact setup n s₀ w₀ w)
    (howner : w.punks.punkIndexToAddress punkIndex ≠ .account n)
    (hpunks : punks.punkIndexToAddress =
      Function.update w.punks.punkIndexToAddress punkIndex owner) :
    Intact setup n s₀ w₀ { w with punks } := by
  refine ⟨h.reachable, h.spared, h.ether, fun other hother => ?_⟩
  have hkept := h.punks other hother
  change punks.punkIndexToAddress other = _
  rw [hpunks, Function.update_apply]
  split
  · rename_i heq
    rw [heq] at hkept
    exact absurd hkept howner
  · exact hkept

theorem buyPunk_intact (h : Intact setup n s₀ w₀ w)
    (howner : w.punks.punkIndexToAddress punkIndex ≠ .account n) :
    Ensures (Intact setup n s₀ w₀) (w.buyPunk caller punkIndex) := by
  apply ensures_skip
  intro punks hbuy
  exact ensures_pure (punk_intact h howner (CryptoPunks.buyPunk_owners hbuy))

theorem transferPunk_intact (h : Intact setup n s₀ w₀ w) (hcaller : n ≠ caller) :
    Ensures (Intact setup n s₀ w₀) (w.transferPunk caller recipient punkIndex) := by
  apply ensures_skip
  intro punks htransfer
  obtain ⟨howner, hpunks⟩ := CryptoPunks.transferPunk_owners htransfer
  have hother : w.punks.punkIndexToAddress punkIndex ≠ .account n := by
    rw [howner]
    exact account_ne (some_ne hcaller)
  exact ensures_pure (punk_intact h hother hpunks)

theorem mintWrapped_intact (h : Intact setup n s₀ w₀ w) (hn : setup.Outsider n) :
    Ensures (Intact setup n s₀ w₀) (w.mintWrapped setup punkIndex) := by
  apply ensures_skip
  intro _ _
  cases hpunk : w.transferPunk setup.proxy setup.punkAsset punkIndex with
  | error e => exact ensures_error _
  | ok w₁ =>
    have h₁ := transferPunk_intact h hn.proxy w₁ hpunk
    exact tokenCall_intact h₁ nofun nofun

theorem burnWrapped_intact (h : Intact setup n s₀ w₀ w) (hn : setup.Outsider n)
    (howner : (w.state.erc721 setup.punkAsset).owners punkIndex ≠ .account n) :
    Ensures (Intact setup n s₀ w₀) (w.burnWrapped setup punkIndex) := by
  apply ensures_skip
  intro _ _
  refine Ensures.bind (tokenCall_intact h (some_ne hn.punkGateway) howner) fun w₁ h₁ => ?_
  exact transferPunk_intact h₁ hn.wrappedPunks

end World

theorem behalf_ne {whitelist : Address → Bool} {msgSender : Nat} {onBehalfOf : Address} {u : Unit}
    (hcheck : checkValidCallerAndOnBehalfOf whitelist msgSender onBehalfOf = .ok u)
    (hsender : n ≠ msgSender)
    (hlisted : whitelist (.account msgSender) = true → onBehalfOf ≠ .account n) :
    onBehalfOf ≠ .account n := by
  rcases require_eq_ok.mp hcheck with hown | hlist
  · rw [hown]
    exact account_ne (some_ne hsender)
  · exact hlisted hlist

/-! ### `WETHGateway` -/

namespace WETHGateway

variable {msgSender value amount accAmount nftTokenId used gateway buyItNowFine : Nat}
  {nftAsset recipient onBehalfOf : Address}

theorem depositETH_intact (h : Intact setup n s₀ w₀ w) (hn : setup.Outsider n) :
    Ensures (Intact setup n s₀ w₀) (depositETH setup w msgSender value onBehalfOf) := by
  refine ensures_skip fun _ _ => ?_
  refine (World.depositWETH_intact h hn.wethGateway).bind fun w₁ h₁ => ?_
  exact World.callPool_intact h₁ (some_ne hn.wethGateway) nofun

theorem payOut_intact (h : Intact setup n s₀ w₀ w) (hn : setup.Outsider n) :
    Ensures (Intact setup n s₀ w₀) (do
      let w ← w.withdrawWETH setup setup.wethGateway amount
      w.safeTransferETH setup setup.wethGateway recipient amount) := by
  refine (World.withdrawWETH_intact h hn hn.wethGateway).bind fun w₁ h₁ => ?_
  exact World.safeTransferETH_intact h₁ hn.wethGateway

theorem withdrawETH_intact (h : Intact setup n s₀ w₀ w) (hn : setup.Outsider n)
    (hsender : n ≠ msgSender) :
    Ensures (Intact setup n s₀ w₀) (withdrawETH setup w msgSender amount recipient) := by
  refine ensures_skip fun _ _ => ?_
  refine ensures_skip fun userBalance _ => ?_
  have hdraws : Address.account msgSender ≠ .account n := account_ne (some_ne hsender)
  have htake : ∀ amountToWithdraw, Ensures (Intact setup n s₀ w₀) (w.call (.user
      (.transferCTokenFrom setup.wethGateway setup.wethAsset (.account msgSender)
        (.account setup.wethGateway) amountToWithdraw))) :=
    fun _ => World.call_intact h ⟨some_ne hn.wethGateway, fun _ _ _ => hdraws⟩
  refine (htake _).bind fun w₁ h₁ => ?_
  refine Ensures.bind (World.callPool_intact h₁ (some_ne hn.wethGateway) nofun) fun w₂ h₂ => ?_
  exact payOut_intact h₂ hn

theorem takeNFT_intact (h : Intact setup n s₀ w₀ w) (hn : setup.Outsider n)
    (hsender : n ≠ msgSender) :
    Ensures (Intact setup n s₀ w₀) (takeNFT setup w msgSender nftAsset nftTokenId) := by
  apply ensures_ite
  · intro _
    exact World.tokenCall_intact h (some_ne hn.wethGateway) (account_ne (some_ne hsender))
  · exact fun _ => ensures_pure h

theorem borrowItemETH_intact (h : Intact setup n s₀ w₀ w) (hn : setup.Outsider n)
    (hsender : n ≠ msgSender) (hbehalf : onBehalfOf ≠ .account n) :
    Ensures (Intact setup n s₀ w₀)
      (borrowItemETH setup w msgSender onBehalfOf nftAsset nftTokenId amount) := by
  refine (takeNFT_intact h hn hsender).bind fun w₁ h₁ => ?_
  refine Ensures.bind (World.callPool_intact h₁ (some_ne hn.wethGateway) hbehalf) fun w₂ h₂ => ?_
  exact payOut_intact h₂ hn

theorem borrowETH_intact (h : Intact setup n s₀ w₀ w) (hn : setup.Outsider n)
    (hsender : n ≠ msgSender)
    (hlisted : w.wethWhitelist (.account msgSender) = true → onBehalfOf ≠ .account n) :
    Ensures (Intact setup n s₀ w₀)
      (borrowETH setup w msgSender amount nftAsset nftTokenId onBehalfOf) :=
  ensures_skip fun _ hcheck =>
    borrowItemETH_intact h hn hsender (behalf_ne hcheck hsender hlisted)

theorem batchBorrowETH_intact {amounts nftTokenIds : List Nat} {nftAssets : List Address}
    (h : Intact setup n s₀ w₀ w) (hn : setup.Outsider n) (hsender : n ≠ msgSender)
    (hlisted : w.wethWhitelist (.account msgSender) = true → onBehalfOf ≠ .account n) :
    Ensures (Intact setup n s₀ w₀)
      (batchBorrowETH setup w msgSender amounts nftAssets nftTokenIds onBehalfOf) := by
  refine ensures_skip fun _ _ => ?_
  refine ensures_skip fun _ _ => ?_
  refine ensures_skip fun _ hcheck => ?_
  have hbehalf := behalf_ne hcheck hsender hlisted
  exact ensures_foldlM _ (fun _ _ hw => borrowItemETH_intact hw hn hsender hbehalf) h

theorem repayItemETH_intact (h : Intact setup n s₀ w₀ w) (hn : setup.Outsider n) :
    Ensures (fun r => Intact setup n s₀ w₀ r.1)
      (repayItemETH setup w value nftAsset nftTokenId amount accAmount) := by
  refine ensures_skip fun _ _ => ?_
  refine ensures_skip fun borrowed _ => ?_
  refine ensures_skip fun _ _ => ?_
  refine ensures_skip fun needed _ => ?_
  refine ensures_skip fun _ _ => ?_
  refine (World.depositWETH_intact h hn.wethGateway).bind fun w₁ h₁ => ?_
  exact World.repay_intact h₁ hn.wethGateway

theorem refundETH_intact (h : Intact setup n s₀ w₀ w) (hgateway : n ≠ gateway) :
    Ensures (Intact setup n s₀ w₀) (refundETH setup w msgSender gateway value used) :=
  ensures_ite (fun _ => World.safeTransferETH_intact h hgateway) fun _ => ensures_pure h

theorem repayETH_intact (h : Intact setup n s₀ w₀ w) (hn : setup.Outsider n) :
    Ensures (fun r => Intact setup n s₀ w₀ r.1)
      (repayETH setup w msgSender value nftAsset nftTokenId amount) := by
  refine (repayItemETH_intact h hn).bind fun r hr => ?_
  exact (refundETH_intact hr hn.wethGateway).bind fun w₁ h₁ => ensures_pure h₁

theorem repayBatch_intact {ι : Type} {items : List ι}
    {repayItem : World → ι → Nat → Except Revert (World × Nat × Bool)}
    (hitem : ∀ w item accAmount, Intact setup n s₀ w₀ w →
      Ensures (fun r => Intact setup n s₀ w₀ r.1) (repayItem w item accAmount))
    (h : Intact setup n s₀ w₀ w) :
    Ensures (fun batch : RepayBatch => Intact setup n s₀ w₀ batch.world)
      (items.foldlM (fun (batch : RepayBatch) item => do
        let r ← repayItem batch.world item batch.allRepayDebtAmount
        let all ← Uint256.add batch.allRepayDebtAmount r.2.1
        pure ⟨r.1, all, batch.results ++ [r.2]⟩) ⟨w, 0, []⟩) := by
  have hstart : Intact setup n s₀ w₀ (RepayBatch.mk w 0 []).world := h
  refine ensures_foldlM _ (fun batch item hbatch => ?_) hstart
  refine (hitem _ item _ hbatch).bind fun r hr => ?_
  exact ensures_skip fun _ _ => ensures_pure hr

theorem batchRepayETH_intact {amounts nftTokenIds : List Nat} {nftAssets : List Address}
    (h : Intact setup n s₀ w₀ w) (hn : setup.Outsider n) :
    Ensures (fun r => Intact setup n s₀ w₀ r.1)
      (batchRepayETH setup w msgSender value nftAssets nftTokenIds amounts) := by
  refine ensures_skip fun _ _ => ?_
  refine ensures_skip fun _ _ => ?_
  have hitem : ∀ w (item : Address × Nat × Nat) accAmount, Intact setup n s₀ w₀ w →
      Ensures (fun r => Intact setup n s₀ w₀ r.1)
        (repayItemETH setup w value item.1 item.2.1 item.2.2 accAmount) :=
    fun _ _ _ hw => repayItemETH_intact hw hn
  refine (repayBatch_intact hitem h).bind fun batch hbatch => ?_
  exact (refundETH_intact hbatch hn.wethGateway).bind fun w₁ h₁ => ensures_pure h₁

theorem buyItNowETH_intact (h : Intact setup n s₀ w₀ w) (hn : setup.Outsider n) :
    Ensures (Intact setup n s₀ w₀)
      (buyItNowETH setup w msgSender value nftAsset nftTokenId onBehalfOf) := by
  refine ensures_skip fun _ _ => ?_
  refine ensures_skip fun _ _ => ?_
  refine (World.depositWETH_intact h hn.wethGateway).bind fun w₁ h₁ => ?_
  exact World.callPool_intact h₁ (some_ne hn.wethGateway) nofun

theorem refundWETH_intact (h : Intact setup n s₀ w₀ w) (hn : setup.Outsider n) :
    Ensures (Intact setup n s₀ w₀) (refundWETH setup w msgSender value used) :=
  ensures_ite (fun _ => payOut_intact h hn) fun _ => ensures_pure h

theorem redeemETH_intact (h : Intact setup n s₀ w₀ w) (hn : setup.Outsider n) :
    Ensures (fun r => Intact setup n s₀ w₀ r.1)
      (redeemETH setup w msgSender value nftAsset nftTokenId amount buyItNowFine) := by
  refine ensures_skip fun _ _ => ?_
  refine ensures_skip fun total _ => ?_
  refine ensures_skip fun _ _ => ?_
  refine (World.depositWETH_intact h hn.wethGateway).bind fun w₁ h₁ => ?_
  refine (World.redeem_intact h₁ hn.wethGateway).bind fun r hr => ?_
  exact (refundWETH_intact hr hn).bind fun w₂ h₂ => ensures_pure h₂

theorem liquidateETH_intact (h : Intact setup n s₀ w₀ w) (hn : setup.Outsider n) :
    Ensures (fun r => Intact setup n s₀ w₀ r.1)
      (liquidateETH setup w msgSender value nftAsset nftTokenId) := by
  refine ensures_skip fun _ _ => ?_
  have hpay : Ensures (Intact setup n s₀ w₀)
      (if value > 0 then w.depositWETH setup setup.wethGateway value else pure w) :=
    ensures_ite (fun _ => World.depositWETH_intact h hn.wethGateway) fun _ => ensures_pure h
  refine hpay.bind fun w₁ h₁ => ?_
  refine (World.liquidate_intact h₁ hn.wethGateway).bind fun r hr => ?_
  exact (refundWETH_intact hr hn).bind fun w₂ h₂ => ensures_pure h₂

end WETHGateway

/-! ### `PunkGateway` -/

namespace PunkGateway

variable {msgSender value amount accAmount punkIndex used buyItNowPrice buyItNowFine : Nat}
  {reserveAsset onBehalfOf : Address}

theorem payWETHGateway_intact (h : Intact setup n s₀ w₀ w) (hn : setup.Outsider n) :
    Ensures (Intact setup n s₀ w₀) (payWETHGateway setup w value) :=
  World.sendEther_intact h (account_ne (some_ne hn.punkGateway))

theorem depositPunk_intact (h : Intact setup n s₀ w₀ w) (hn : setup.Outsider n)
    (hsender : n ≠ msgSender) :
    Ensures (Intact setup n s₀ w₀) (depositPunk setup w msgSender punkIndex) := by
  apply ensures_ite
  · exact fun _ => ensures_pure h
  · intro _
    refine ensures_skip fun _ hrequire => ?_
    have howner : w.punks.punkIndexToAddress punkIndex ≠ .account n := by
      rw [require_eq_ok.mp hrequire]
      exact account_ne (some_ne hsender)
    refine (World.buyPunk_intact h howner).bind fun w₁ h₁ => ?_
    refine (World.transferPunk_intact h₁ hn.punkGateway).bind fun w₂ h₂ => ?_
    exact World.mintWrapped_intact h₂ hn

theorem borrowItem_intact (h : Intact setup n s₀ w₀ w) (hn : setup.Outsider n)
    (hsender : n ≠ msgSender) (hbehalf : onBehalfOf ≠ .account n) :
    Ensures (Intact setup n s₀ w₀)
      (borrowItem setup w msgSender onBehalfOf reserveAsset amount punkIndex) := by
  refine (depositPunk_intact h hn hsender).bind fun w₁ h₁ => ?_
  refine Ensures.bind (World.callPool_intact h₁ (some_ne hn.punkGateway) hbehalf) fun w₂ h₂ => ?_
  exact World.tokenCall_intact h₂ (some_ne hn.punkGateway) nofun

theorem borrow_intact (h : Intact setup n s₀ w₀ w) (hn : setup.Outsider n)
    (hsender : n ≠ msgSender)
    (hlisted : w.punkWhitelist (.account msgSender) = true → onBehalfOf ≠ .account n) :
    Ensures (Intact setup n s₀ w₀)
      (borrow setup w msgSender reserveAsset amount punkIndex onBehalfOf) :=
  ensures_skip fun _ hcheck => borrowItem_intact h hn hsender (behalf_ne hcheck hsender hlisted)

theorem batchBorrow_intact {amounts punkIndexs : List Nat} {reserveAssets : List Address}
    (h : Intact setup n s₀ w₀ w) (hn : setup.Outsider n) (hsender : n ≠ msgSender)
    (hlisted : w.punkWhitelist (.account msgSender) = true → onBehalfOf ≠ .account n) :
    Ensures (Intact setup n s₀ w₀)
      (batchBorrow setup w msgSender reserveAssets amounts punkIndexs onBehalfOf) := by
  refine ensures_skip fun _ _ => ?_
  refine ensures_skip fun _ _ => ?_
  refine ensures_skip fun _ hcheck => ?_
  have hbehalf := behalf_ne hcheck hsender hlisted
  exact ensures_foldlM _ (fun _ _ hw => borrowItem_intact hw hn hsender hbehalf) h

theorem withdrawPunk_intact (h : Intact setup n s₀ w₀ w) (hn : setup.Outsider n)
    (hsender : n ≠ msgSender) :
    Ensures (Intact setup n s₀ w₀) (withdrawPunk setup w msgSender punkIndex onBehalfOf) := by
  refine ensures_skip fun owner _ => ?_
  refine ensures_skip fun _ hcaller => ?_
  refine ensures_skip fun _ hbehalf => ?_
  have hother : onBehalfOf ≠ .account n := by
    rw [← require_eq_ok.mp hbehalf, require_eq_ok.mp hcaller]
    exact account_ne (some_ne hsender)
  refine ensures_skip fun w₁ htake => ?_
  have h₁ : Intact setup n s₀ w₀ w₁ := by
    refine World.tokenCall_intact h ?_ ?_ w₁ htake
    · exact some_ne hn.punkGateway
    · exact hother
  have howner : (w₁.state.erc721 setup.punkAsset).owners punkIndex ≠ .account n := by
    obtain ⟨s', hrun, rfl⟩ := World.call_eq_ok.mp htake
    obtain ⟨-, -, -, -, -, rfl⟩ := State.safeTransferNFT_eq_ok.mp hrun
    simp only [Function.update_self, ERC721.given]
    exact account_ne (some_ne hn.punkGateway)
  refine (World.burnWrapped_intact h₁ hn howner).bind fun w₂ h₂ => ?_
  exact World.transferPunk_intact h₂ hn.punkGateway

theorem refund_intact (h : Intact setup n s₀ w₀ w) (hn : setup.Outsider n) :
    Ensures (Intact setup n s₀ w₀) (refund setup w msgSender reserveAsset amount used) := by
  apply ensures_ite
  · intro _
    exact World.tokenCall_intact h (some_ne hn.punkGateway) nofun
  · exact fun _ => ensures_pure h

theorem collect_intact (h : Intact setup n s₀ w₀ w) (hn : setup.Outsider n)
    (hsender : n ≠ msgSender) :
    Ensures (Intact setup n s₀ w₀) (w.call (.token (.transferFrom setup.punkGateway reserveAsset
      (.account msgSender) (.account setup.punkGateway) amount))) :=
  World.tokenCall_intact h (some_ne hn.punkGateway) (account_ne (some_ne hsender))

theorem repayItem_intact (h : Intact setup n s₀ w₀ w) (hn : setup.Outsider n)
    (hsender : n ≠ msgSender) :
    Ensures (fun r => Intact setup n s₀ w₀ r.1)
      (repayItem setup w msgSender punkIndex amount) := by
  refine ensures_skip fun _ _ => ?_
  refine ensures_skip fun borrowed _ => ?_
  refine (collect_intact h hn hsender).bind fun w₁ h₁ => ?_
  refine (World.repay_intact h₁ hn.punkGateway).bind fun r hr => ?_
  refine Ensures.bind (ensures_ite ?_ fun _ => ensures_pure hr) fun w₂ h₂ => ensures_pure h₂
  exact fun _ => ensures_skip fun _ _ => withdrawPunk_intact hr hn hsender

theorem batchRepay_intact {punkIndexs amounts : List Nat} (h : Intact setup n s₀ w₀ w)
    (hn : setup.Outsider n) (hsender : n ≠ msgSender) :
    Ensures (fun r => Intact setup n s₀ w₀ r.1)
      (batchRepay setup w msgSender punkIndexs amounts) := by
  refine ensures_skip fun _ _ => ?_
  have hpass : ∀ (acc : World × List (Nat × Bool)) (item : Nat × Nat),
      Intact setup n s₀ w₀ acc.1 →
      Ensures (fun acc : World × List (Nat × Bool) => Intact setup n s₀ w₀ acc.1) (do
        let r ← repayItem setup acc.1 msgSender item.1 item.2
        pure (r.1, acc.2 ++ [r.2])) := by
    intro acc item hacc
    exact (repayItem_intact hacc hn hsender).bind fun r hr => ensures_pure hr
  exact ensures_foldlM _ hpass h

theorem buyItNow_intact (h : Intact setup n s₀ w₀ w) (hn : setup.Outsider n)
    (hsender : n ≠ msgSender) :
    Ensures (Intact setup n s₀ w₀)
      (buyItNow setup w msgSender punkIndex buyItNowPrice onBehalfOf) := by
  refine ensures_skip fun _ _ => ?_
  refine ensures_skip fun _ _ => ?_
  refine (collect_intact h hn hsender).bind fun w₁ h₁ => ?_
  exact World.callPool_intact h₁ (some_ne hn.punkGateway) nofun

theorem redeem_intact (h : Intact setup n s₀ w₀ w) (hn : setup.Outsider n)
    (hsender : n ≠ msgSender) :
    Ensures (fun r => Intact setup n s₀ w₀ r.1)
      (redeem setup w msgSender punkIndex amount buyItNowFine) := by
  refine ensures_skip fun _ _ => ?_
  refine ensures_skip fun total _ => ?_
  refine (collect_intact h hn hsender).bind fun w₁ h₁ => ?_
  refine (World.redeem_intact h₁ hn.punkGateway).bind fun r hr => ?_
  exact (refund_intact hr hn).bind fun w₂ h₂ => ensures_pure h₂

theorem liquidate_intact (h : Intact setup n s₀ w₀ w) (hn : setup.Outsider n)
    (hsender : n ≠ msgSender) :
    Ensures (fun r => Intact setup n s₀ w₀ r.1)
      (liquidate setup w msgSender punkIndex amount) := by
  refine ensures_skip fun _ _ => ?_
  refine ensures_skip fun _ _ => ?_
  refine Ensures.bind (ensures_ite (fun _ => collect_intact h hn hsender) fun _ =>
    ensures_pure h) fun w₁ h₁ => ?_
  refine (World.liquidate_intact h₁ hn.punkGateway).bind fun r hr => ?_
  refine (withdrawPunk_intact hr hn hsender).bind fun w₂ h₂ => ?_
  exact (refund_intact h₂ hn).bind fun w₃ h₃ => ensures_pure h₃

/-! Loans of ether. -/

theorem borrowETH_intact (h : Intact setup n s₀ w₀ w) (hn : setup.Outsider n)
    (hsender : n ≠ msgSender)
    (hlisted : w.punkWhitelist (.account msgSender) = true → onBehalfOf ≠ .account n) :
    Ensures (Intact setup n s₀ w₀)
      (borrowETH setup w msgSender amount punkIndex onBehalfOf) := by
  refine ensures_skip fun _ hcheck => ?_
  have hbehalf := behalf_ne hcheck hsender hlisted
  refine (depositPunk_intact h hn hsender).bind fun w₁ h₁ => ?_
  exact WETHGateway.borrowETH_intact h₁ hn hn.punkGateway fun _ => hbehalf

theorem batchBorrowETH_intact {amounts punkIndexs : List Nat} (h : Intact setup n s₀ w₀ w)
    (hn : setup.Outsider n) (hsender : n ≠ msgSender)
    (hlisted : w.punkWhitelist (.account msgSender) = true → onBehalfOf ≠ .account n) :
    Ensures (Intact setup n s₀ w₀)
      (batchBorrowETH setup w msgSender amounts punkIndexs onBehalfOf) := by
  refine ensures_skip fun _ _ => ?_
  refine ensures_skip fun _ hcheck => ?_
  have hbehalf := behalf_ne hcheck hsender hlisted
  refine Ensures.bind (ensures_foldlM _ (fun _ _ hw => depositPunk_intact hw hn hsender) h)
    fun w₁ h₁ => ?_
  exact WETHGateway.batchBorrowETH_intact h₁ hn hn.punkGateway fun _ => hbehalf

theorem repayItemETH_intact (h : Intact setup n s₀ w₀ w) (hn : setup.Outsider n)
    (hsender : n ≠ msgSender) :
    Ensures (fun r => Intact setup n s₀ w₀ r.1)
      (repayItemETH setup w msgSender value punkIndex amount accAmount) := by
  refine ensures_skip fun _ _ => ?_
  refine ensures_skip fun _ _ => ?_
  refine ensures_skip fun borrowed _ => ?_
  refine ensures_skip fun needed _ => ?_
  refine ensures_skip fun _ _ => ?_
  refine (payWETHGateway_intact h hn).bind fun w₁ h₁ => ?_
  refine (WETHGateway.repayETH_intact h₁ hn).bind fun r hr => ?_
  exact Ensures.bind (ensures_ite (fun _ => withdrawPunk_intact hr hn hsender) fun _ =>
    ensures_pure hr) fun w₂ h₂ => ensures_pure h₂

theorem repayETH_intact (h : Intact setup n s₀ w₀ w) (hn : setup.Outsider n)
    (hsender : n ≠ msgSender) :
    Ensures (fun r => Intact setup n s₀ w₀ r.1)
      (repayETH setup w msgSender value punkIndex amount) := by
  refine (repayItemETH_intact h hn hsender).bind fun r hr => ?_
  exact (WETHGateway.refundETH_intact hr hn.punkGateway).bind fun w₁ h₁ => ensures_pure h₁

theorem batchRepayETH_intact {punkIndexs amounts : List Nat} (h : Intact setup n s₀ w₀ w)
    (hn : setup.Outsider n) (hsender : n ≠ msgSender) :
    Ensures (fun r => Intact setup n s₀ w₀ r.1)
      (batchRepayETH setup w msgSender value punkIndexs amounts) := by
  refine ensures_skip fun _ _ => ?_
  have hitem : ∀ w (item : Nat × Nat) accAmount, Intact setup n s₀ w₀ w →
      Ensures (fun r => Intact setup n s₀ w₀ r.1)
        (repayItemETH setup w msgSender value item.1 item.2 accAmount) :=
    fun _ _ _ hw => repayItemETH_intact hw hn hsender
  refine (WETHGateway.repayBatch_intact hitem h).bind fun batch hbatch => ?_
  exact (WETHGateway.refundETH_intact hbatch hn.punkGateway).bind fun w₁ h₁ => ensures_pure h₁

theorem buyItNowETH_intact (h : Intact setup n s₀ w₀ w) (hn : setup.Outsider n) :
    Ensures (Intact setup n s₀ w₀)
      (buyItNowETH setup w msgSender value punkIndex onBehalfOf) := by
  refine ensures_skip fun _ _ => ?_
  refine (payWETHGateway_intact h hn).bind fun w₁ h₁ => ?_
  exact WETHGateway.buyItNowETH_intact h₁ hn

theorem redeemETH_intact (h : Intact setup n s₀ w₀ w) (hn : setup.Outsider n) :
    Ensures (fun r => Intact setup n s₀ w₀ r.1)
      (redeemETH setup w msgSender value punkIndex amount buyItNowFine) := by
  refine ensures_skip fun _ _ => ?_
  refine (payWETHGateway_intact h hn).bind fun w₁ h₁ => ?_
  refine (WETHGateway.redeemETH_intact h₁ hn).bind fun r hr => ?_
  exact (WETHGateway.refundETH_intact hr hn.punkGateway).bind fun w₂ h₂ => ensures_pure h₂

theorem liquidateETH_intact (h : Intact setup n s₀ w₀ w) (hn : setup.Outsider n)
    (hsender : n ≠ msgSender) :
    Ensures (fun r => Intact setup n s₀ w₀ r.1)
      (liquidateETH setup w msgSender value punkIndex) := by
  refine ensures_skip fun _ _ => ?_
  refine ensures_skip fun _ _ => ?_
  refine (payWETHGateway_intact h hn).bind fun w₁ h₁ => ?_
  refine (WETHGateway.liquidateETH_intact h₁ hn).bind fun r hr => ?_
  refine (withdrawPunk_intact hr hn hsender).bind fun w₂ h₂ => ?_
  exact (WETHGateway.refundETH_intact h₂ hn.punkGateway).bind fun w₃ h₃ => ensures_pure h₃

end PunkGateway

end Confetti
