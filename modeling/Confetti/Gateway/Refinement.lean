import Confetti.Gateway.System
import Confetti.Library.Refinement

/-! All that the gateways, and the world around them, do to the protocol is a run of its
operations. So whatever holds in every reachable state holds in every reachable world. -/
namespace Confetti
open Outcome TransitionSystem

def protocolOf {α : Type} (r : World × α) : State := r.1.state

variable {setup : GatewaySetup} {w : World} {msgSender value : Nat}

/-! ### What a gateway's code can do -/

namespace World

variable {caller punkIndex amount nftTokenId : Nat} {sender recipient nftAsset : Address}

theorem call_advances (operation : Operation) :
    Advances operations w.state World.state (w.call operation) := by
  intro w' h
  obtain ⟨s', hrun, rfl⟩ := call_eq_ok.mp h
  have hstep : operations.step w.state operation = .ok s' := hrun
  exact Reaches.step hstep

theorem callPool_advances (poolCall : UserCall) :
    Advances operations w.state World.state (w.callPool poolCall) := by
  intro w' h
  obtain ⟨s', hrun, rfl⟩ := callPool_eq_ok.mp h
  have hstep : operations.step w.state (.user poolCall) = .ok s' := hrun
  exact Reaches.step hstep

theorem repay_advances :
    Advances operations w.state protocolOf (w.repay caller nftAsset nftTokenId amount) := by
  intro r h
  obtain ⟨r, hrun, rfl⟩ := bind_pure_eq_ok.mp h
  have hstep : operations.step w.state (.user (.repay caller nftAsset nftTokenId amount)) =
      .ok r.1 := map_eq_ok.mpr ⟨r, hrun, rfl⟩
  exact Reaches.step hstep

theorem redeem_advances {buyItNowFine : Nat} :
    Advances operations w.state protocolOf
      (w.redeem caller nftAsset nftTokenId amount buyItNowFine) := by
  intro r h
  obtain ⟨r, hrun, rfl⟩ := bind_pure_eq_ok.mp h
  have hstep : operations.step w.state
      (.user (.redeem caller nftAsset nftTokenId amount buyItNowFine)) = .ok r.1 :=
    map_eq_ok.mpr ⟨r, hrun, rfl⟩
  exact Reaches.step hstep

theorem liquidate_advances :
    Advances operations w.state protocolOf (w.liquidate caller nftAsset nftTokenId amount) := by
  intro r h
  obtain ⟨r, hrun, rfl⟩ := bind_pure_eq_ok.mp h
  have hstep : operations.step w.state (.user (.liquidate caller nftAsset nftTokenId amount)) =
      .ok r.1 := map_eq_ok.mpr ⟨r, hrun, rfl⟩
  exact Reaches.step hstep

theorem sendEther_advances :
    Advances operations w.state World.state (w.sendEther sender recipient value) := by
  apply advances_of_same
  intro w' h
  obtain ⟨-, rfl⟩ := sendEther_eq_ok.mp h
  rfl

theorem depositWETH_advances :
    Advances operations w.state World.state (w.depositWETH setup caller value) :=
  sendEther_advances.bind fun _ => call_advances _

theorem withdrawWETH_advances :
    Advances operations w.state World.state (w.withdrawWETH setup caller value) :=
  (call_advances _).bind fun _ => sendEther_advances

theorem safeTransferETH_advances :
    Advances operations w.state World.state (w.safeTransferETH setup caller recipient value) := by
  apply advances_skip
  intro _
  apply advances_ite
  · exact depositWETH_advances
  · exact advances_skip fun _ => sendEther_advances

theorem buyPunk_advances : Advances operations w.state World.state (w.buyPunk caller punkIndex) :=
  advances_skip fun _ => advances_pure rfl

theorem transferPunk_advances :
    Advances operations w.state World.state (w.transferPunk caller recipient punkIndex) :=
  advances_skip fun _ => advances_pure rfl

theorem mintWrapped_advances :
    Advances operations w.state World.state (w.mintWrapped setup punkIndex) := by
  apply advances_skip
  intro _
  cases hpunk : w.transferPunk setup.proxy setup.punkAsset punkIndex with
  | error e =>
    simp only
    exact advances_error _
  | ok w₁ =>
    simp only
    intro w' h
    exact (transferPunk_advances w₁ hpunk).trans (call_advances _ w' h)

theorem burnWrapped_advances :
    Advances operations w.state World.state (w.burnWrapped setup punkIndex) := by
  apply advances_skip
  intro _
  exact (call_advances _).bind fun _ => transferPunk_advances

end World

/-! ### `WETHGateway` -/

namespace WETHGateway

variable {amount accAmount nftTokenId used gateway buyItNowFine : Nat}
  {nftAsset recipient onBehalfOf : Address}

theorem depositETH_advances :
    Advances operations w.state World.state (depositETH setup w msgSender value onBehalfOf) := by
  apply advances_skip
  intro _
  exact World.depositWETH_advances.bind fun _ => World.callPool_advances _

theorem withdrawETH_advances :
    Advances operations w.state World.state (withdrawETH setup w msgSender amount recipient) := by
  apply advances_skip
  intro _
  apply advances_skip
  intro userBalance
  apply (World.call_advances _).bind
  intro w₁
  apply (World.callPool_advances _).bind
  intro w₂
  exact World.withdrawWETH_advances.bind fun _ => World.safeTransferETH_advances

theorem takeNFT_advances :
    Advances operations w.state World.state (takeNFT setup w msgSender nftAsset nftTokenId) :=
  advances_ite (World.call_advances _) (advances_pure rfl)

theorem borrowItemETH_advances :
    Advances operations w.state World.state
      (borrowItemETH setup w msgSender onBehalfOf nftAsset nftTokenId amount) := by
  apply takeNFT_advances.bind
  intro w₁
  apply (World.callPool_advances _).bind
  intro w₂
  exact World.withdrawWETH_advances.bind fun _ => World.safeTransferETH_advances

theorem borrowETH_advances :
    Advances operations w.state World.state
      (borrowETH setup w msgSender amount nftAsset nftTokenId onBehalfOf) :=
  advances_skip fun _ => borrowItemETH_advances

theorem batchBorrowETH_advances {amounts nftTokenIds : List Nat} {nftAssets : List Address} :
    Advances operations w.state World.state
      (batchBorrowETH setup w msgSender amounts nftAssets nftTokenIds onBehalfOf) := by
  apply advances_skip
  intro _
  apply advances_skip
  intro _
  apply advances_skip
  intro _
  exact advances_foldlM _ (fun _ _ => borrowItemETH_advances) w

theorem repayItemETH_advances :
    Advances operations w.state protocolOf
      (repayItemETH setup w value nftAsset nftTokenId amount accAmount) := by
  apply advances_skip
  intro _
  apply advances_skip
  intro borrowed
  apply advances_skip
  intro _
  apply advances_skip
  intro needed
  apply advances_skip
  intro _
  exact World.depositWETH_advances.bind fun _ => World.repay_advances

theorem refundETH_advances :
    Advances operations w.state World.state (refundETH setup w msgSender gateway value used) :=
  advances_ite World.safeTransferETH_advances (advances_pure rfl)

theorem repayETH_advances :
    Advances operations w.state protocolOf
      (repayETH setup w msgSender value nftAsset nftTokenId amount) := by
  apply repayItemETH_advances.bind
  intro r
  exact refundETH_advances.bind fun _ => advances_pure rfl

theorem repayBatch_advances {ι : Type} {items : List ι}
    {repayItem : World → ι → Nat → Except Revert (World × Nat × Bool)}
    (hitem : ∀ w item accAmount,
      Advances operations w.state protocolOf (repayItem w item accAmount)) :
    Advances operations w.state (fun batch : RepayBatch => batch.world.state)
      (items.foldlM (fun (batch : RepayBatch) item => do
        let r ← repayItem batch.world item batch.allRepayDebtAmount
        let all ← Uint256.add batch.allRepayDebtAmount r.2.1
        pure ⟨r.1, all, batch.results ++ [r.2]⟩) ⟨w, 0, []⟩) := by
  have hpass : ∀ (batch : RepayBatch) (item : ι),
      Advances operations batch.world.state (fun batch : RepayBatch => batch.world.state) (do
        let r ← repayItem batch.world item batch.allRepayDebtAmount
        let all ← Uint256.add batch.allRepayDebtAmount r.2.1
        pure ⟨r.1, all, batch.results ++ [r.2]⟩) := by
    intro batch item
    apply (hitem batch.world item batch.allRepayDebtAmount).bind
    intro r
    exact advances_skip fun _ => advances_pure rfl
  exact advances_foldlM _ hpass ⟨w, 0, []⟩

theorem batchRepayETH_advances {amounts nftTokenIds : List Nat} {nftAssets : List Address} :
    Advances operations w.state protocolOf
      (batchRepayETH setup w msgSender value nftAssets nftTokenIds amounts) := by
  apply advances_skip
  intro _
  apply advances_skip
  intro _
  have hitem : ∀ w (item : Address × Nat × Nat) accAmount, Advances operations w.state protocolOf
      (repayItemETH setup w value item.1 item.2.1 item.2.2 accAmount) :=
    fun _ _ _ => repayItemETH_advances
  apply (repayBatch_advances hitem).bind
  intro batch
  exact refundETH_advances.bind fun _ => advances_pure rfl

theorem buyItNowETH_advances :
    Advances operations w.state World.state
      (buyItNowETH setup w msgSender value nftAsset nftTokenId onBehalfOf) := by
  apply advances_skip
  intro _
  apply advances_skip
  intro _
  exact World.depositWETH_advances.bind fun _ => World.callPool_advances _

theorem refundWETH_advances :
    Advances operations w.state World.state (refundWETH setup w msgSender value used) := by
  apply advances_ite
  · exact World.withdrawWETH_advances.bind fun _ => World.safeTransferETH_advances
  · exact advances_pure rfl

theorem redeemETH_advances :
    Advances operations w.state protocolOf
      (redeemETH setup w msgSender value nftAsset nftTokenId amount buyItNowFine) := by
  apply advances_skip
  intro _
  apply advances_skip
  intro total
  apply advances_skip
  intro _
  apply World.depositWETH_advances.bind
  intro w₁
  apply World.redeem_advances.bind
  intro r
  exact refundWETH_advances.bind fun _ => advances_pure rfl

theorem liquidateETH_advances :
    Advances operations w.state protocolOf
      (liquidateETH setup w msgSender value nftAsset nftTokenId) := by
  apply advances_skip
  intro _
  apply (advances_ite World.depositWETH_advances (advances_pure rfl)).bind
  intro w₁
  apply World.liquidate_advances.bind
  intro r
  exact refundWETH_advances.bind fun _ => advances_pure rfl

end WETHGateway

theorem WETHGatewayCall.execute_advances (call : WETHGatewayCall) :
    Advances operations w.state World.state (call.execute setup w msgSender value) := by
  cases call with
  | depositETH => exact WETHGateway.depositETH_advances
  | withdrawETH => exact WETHGateway.withdrawETH_advances
  | borrowETH => exact WETHGateway.borrowETH_advances
  | batchBorrowETH => exact WETHGateway.batchBorrowETH_advances
  | repayETH => exact WETHGateway.repayETH_advances.map fun _ => rfl
  | batchRepayETH => exact WETHGateway.batchRepayETH_advances.map fun _ => rfl
  | buyItNowETH => exact WETHGateway.buyItNowETH_advances
  | redeemETH => exact WETHGateway.redeemETH_advances.map fun _ => rfl
  | liquidateETH => exact WETHGateway.liquidateETH_advances.map fun _ => rfl

/-! ### `PunkGateway` -/

namespace PunkGateway

variable {amount accAmount punkIndex used buyItNowPrice buyItNowFine : Nat}
  {reserveAsset onBehalfOf : Address}

theorem payWETHGateway_advances :
    Advances operations w.state World.state (payWETHGateway setup w value) :=
  World.sendEther_advances

theorem depositPunk_advances :
    Advances operations w.state World.state (depositPunk setup w msgSender punkIndex) := by
  apply advances_ite
  · exact advances_pure rfl
  · apply advances_skip
    intro _
    apply World.buyPunk_advances.bind
    intro w₁
    exact World.transferPunk_advances.bind fun _ => World.mintWrapped_advances

theorem borrowItem_advances :
    Advances operations w.state World.state
      (borrowItem setup w msgSender onBehalfOf reserveAsset amount punkIndex) := by
  apply depositPunk_advances.bind
  intro w₁
  exact (World.callPool_advances _).bind fun _ => World.call_advances _

theorem borrow_advances :
    Advances operations w.state World.state
      (borrow setup w msgSender reserveAsset amount punkIndex onBehalfOf) :=
  advances_skip fun _ => borrowItem_advances

theorem batchBorrow_advances {amounts punkIndexs : List Nat} {reserveAssets : List Address} :
    Advances operations w.state World.state
      (batchBorrow setup w msgSender reserveAssets amounts punkIndexs onBehalfOf) := by
  apply advances_skip
  intro _
  apply advances_skip
  intro _
  apply advances_skip
  intro _
  exact advances_foldlM _ (fun _ _ => borrowItem_advances) w

theorem withdrawPunk_advances :
    Advances operations w.state World.state
      (withdrawPunk setup w msgSender punkIndex onBehalfOf) := by
  apply advances_skip
  intro owner
  apply advances_skip
  intro _
  apply advances_skip
  intro _
  apply (World.call_advances _).bind
  intro w₁
  exact World.burnWrapped_advances.bind fun _ => World.transferPunk_advances

theorem repayItem_advances :
    Advances operations w.state protocolOf (repayItem setup w msgSender punkIndex amount) := by
  apply advances_skip
  intro _
  apply advances_skip
  intro borrowed
  apply (World.call_advances _).bind
  intro w₁
  apply World.repay_advances.bind
  intro r
  -- a closed loan's punk is handed on
  apply (advances_ite (advances_skip fun _ => withdrawPunk_advances) (advances_pure rfl)).bind
  exact fun _ => advances_pure rfl

theorem batchRepay_advances {punkIndexs amounts : List Nat} :
    Advances operations w.state protocolOf (batchRepay setup w msgSender punkIndexs amounts) := by
  apply advances_skip
  intro _
  have hpass : ∀ (acc : World × List (Nat × Bool)) (item : Nat × Nat),
      Advances operations (protocolOf acc) protocolOf (do
        let r ← repayItem setup acc.1 msgSender item.1 item.2
        pure (r.1, acc.2 ++ [r.2])) := by
    intro acc item
    exact repayItem_advances.bind fun _ => advances_pure rfl
  exact advances_foldlM _ hpass (w, [])

theorem buyItNow_advances :
    Advances operations w.state World.state
      (buyItNow setup w msgSender punkIndex buyItNowPrice onBehalfOf) := by
  apply advances_skip
  intro _
  apply advances_skip
  intro _
  exact (World.call_advances _).bind fun _ => World.callPool_advances _

theorem refund_advances :
    Advances operations w.state World.state (refund setup w msgSender reserveAsset amount used) :=
  advances_ite (World.call_advances _) (advances_pure rfl)

theorem redeem_advances :
    Advances operations w.state protocolOf
      (redeem setup w msgSender punkIndex amount buyItNowFine) := by
  apply advances_skip
  intro _
  apply advances_skip
  intro total
  apply (World.call_advances _).bind
  intro w₁
  apply World.redeem_advances.bind
  intro r
  exact refund_advances.bind fun _ => advances_pure rfl

theorem liquidate_advances :
    Advances operations w.state protocolOf (liquidate setup w msgSender punkIndex amount) := by
  apply advances_skip
  intro _
  apply advances_skip
  intro _
  apply (advances_ite (World.call_advances _) (advances_pure rfl)).bind
  intro w₁
  apply World.liquidate_advances.bind
  intro r
  apply withdrawPunk_advances.bind
  intro w₂
  exact refund_advances.bind fun _ => advances_pure rfl

/-! Loans of ether. -/

theorem borrowETH_advances :
    Advances operations w.state World.state
      (borrowETH setup w msgSender amount punkIndex onBehalfOf) := by
  apply advances_skip
  intro _
  exact depositPunk_advances.bind fun _ => WETHGateway.borrowETH_advances

theorem batchBorrowETH_advances {amounts punkIndexs : List Nat} :
    Advances operations w.state World.state
      (batchBorrowETH setup w msgSender amounts punkIndexs onBehalfOf) := by
  apply advances_skip
  intro _
  apply advances_skip
  intro _
  apply (advances_foldlM _ (fun _ _ => depositPunk_advances) w).bind
  exact fun _ => WETHGateway.batchBorrowETH_advances

theorem repayItemETH_advances :
    Advances operations w.state protocolOf
      (repayItemETH setup w msgSender value punkIndex amount accAmount) := by
  apply advances_skip
  intro _
  apply advances_skip
  intro _
  apply advances_skip
  intro borrowed
  apply advances_skip
  intro needed
  apply advances_skip
  intro _
  apply payWETHGateway_advances.bind
  intro w₁
  apply WETHGateway.repayETH_advances.bind
  intro r
  apply (advances_ite withdrawPunk_advances (advances_pure rfl)).bind
  exact fun _ => advances_pure rfl

theorem repayETH_advances :
    Advances operations w.state protocolOf
      (repayETH setup w msgSender value punkIndex amount) := by
  apply repayItemETH_advances.bind
  intro r
  exact WETHGateway.refundETH_advances.bind fun _ => advances_pure rfl

theorem batchRepayETH_advances {punkIndexs amounts : List Nat} :
    Advances operations w.state protocolOf
      (batchRepayETH setup w msgSender value punkIndexs amounts) := by
  apply advances_skip
  intro _
  have hitem : ∀ w (item : Nat × Nat) accAmount, Advances operations w.state protocolOf
      (repayItemETH setup w msgSender value item.1 item.2 accAmount) :=
    fun _ _ _ => repayItemETH_advances
  apply (WETHGateway.repayBatch_advances hitem).bind
  intro batch
  exact WETHGateway.refundETH_advances.bind fun _ => advances_pure rfl

theorem buyItNowETH_advances :
    Advances operations w.state World.state
      (buyItNowETH setup w msgSender value punkIndex onBehalfOf) := by
  apply advances_skip
  intro _
  exact payWETHGateway_advances.bind fun _ => WETHGateway.buyItNowETH_advances

theorem redeemETH_advances :
    Advances operations w.state protocolOf
      (redeemETH setup w msgSender value punkIndex amount buyItNowFine) := by
  apply advances_skip
  intro _
  apply payWETHGateway_advances.bind
  intro w₁
  apply WETHGateway.redeemETH_advances.bind
  intro r
  exact WETHGateway.refundETH_advances.bind fun _ => advances_pure rfl

theorem liquidateETH_advances :
    Advances operations w.state protocolOf
      (liquidateETH setup w msgSender value punkIndex) := by
  apply advances_skip
  intro _
  apply advances_skip
  intro _
  apply payWETHGateway_advances.bind
  intro w₁
  apply WETHGateway.liquidateETH_advances.bind
  intro r
  apply withdrawPunk_advances.bind
  intro w₂
  exact WETHGateway.refundETH_advances.bind fun _ => advances_pure rfl

end PunkGateway

theorem PunkGatewayCall.execute_advances (call : PunkGatewayCall) :
    Advances operations w.state World.state (call.execute setup w msgSender value) := by
  cases call with
  | borrow => exact PunkGateway.borrow_advances
  | batchBorrow => exact PunkGateway.batchBorrow_advances
  | repay => exact PunkGateway.repayItem_advances.map fun _ => rfl
  | batchRepay => exact PunkGateway.batchRepay_advances.map fun _ => rfl
  | buyItNow => exact PunkGateway.buyItNow_advances
  | redeem => exact PunkGateway.redeem_advances.map fun _ => rfl
  | liquidate => exact PunkGateway.liquidate_advances.map fun _ => rfl
  | borrowETH => exact PunkGateway.borrowETH_advances
  | batchBorrowETH => exact PunkGateway.batchBorrowETH_advances
  | repayETH => exact PunkGateway.repayETH_advances.map fun _ => rfl
  | batchRepayETH => exact PunkGateway.batchRepayETH_advances.map fun _ => rfl
  | buyItNowETH => exact PunkGateway.buyItNowETH_advances
  | redeemETH => exact PunkGateway.redeemETH_advances.map fun _ => rfl
  | liquidateETH => exact PunkGateway.liquidateETH_advances.map fun _ => rfl

/-! ### The whole world -/

theorem WorldStep.advances (w : World) (step : WorldStep) :
    Advances operations w.state World.state ((worlds setup).step w step) := by
  cases step with
  | protocol operation => exact World.call_advances operation
  | gateway caller value call =>
    apply advances_skip
    intro _
    have hsend : ∀ recipient, Advances operations w.state World.state
        (World.sendEther { w with poolCalls := [] } (.account caller) recipient value) := by
      intro recipient
      exact World.sendEther_advances
    apply (hsend _).bind
    intro w₁
    cases call with
    | weth call => exact call.execute_advances
    | punk call => exact call.execute_advances
  | outside => exact advances_pure rfl

theorem state_reachable (h : Reachable (worlds setup) w) : Reachable operations w.state := by
  apply Reachable.refines _ WorldStep.advances h
  exact fun _ hgenesis => hgenesis

end Confetti
