import Confetti.Gateway.PunkGateway

/-! The protocol with its gateways as a transition system: beside the operations there are
the calls of the two gateways, and whatever else happens to ether, punks and whitelists. -/
namespace Confetti
open Outcome TransitionSystem

inductive WETHGatewayCall
  | depositETH (onBehalfOf : Address)
  | withdrawETH (amount : Nat) (recipient : Address)
  | borrowETH (amount : Nat) (nftAsset : Address) (nftTokenId : Nat) (onBehalfOf : Address)
  | batchBorrowETH (amounts : List Nat) (nftAssets : List Address) (nftTokenIds : List Nat)
      (onBehalfOf : Address)
  | repayETH (nftAsset : Address) (nftTokenId amount : Nat)
  | batchRepayETH (nftAssets : List Address) (nftTokenIds amounts : List Nat)
  | buyItNowETH (nftAsset : Address) (nftTokenId : Nat) (onBehalfOf : Address)
  | redeemETH (nftAsset : Address) (nftTokenId amount buyItNowFine : Nat)
  | liquidateETH (nftAsset : Address) (nftTokenId : Nat)
  deriving DecidableEq

inductive PunkGatewayCall
  | borrow (reserveAsset : Address) (amount punkIndex : Nat) (onBehalfOf : Address)
  | batchBorrow (reserveAssets : List Address) (amounts punkIndexs : List Nat)
      (onBehalfOf : Address)
  | repay (punkIndex amount : Nat)
  | batchRepay (punkIndexs amounts : List Nat)
  | buyItNow (punkIndex buyItNowPrice : Nat) (onBehalfOf : Address)
  | redeem (punkIndex amount buyItNowFine : Nat)
  | liquidate (punkIndex amount : Nat)
  | borrowETH (amount punkIndex : Nat) (onBehalfOf : Address)
  | batchBorrowETH (amounts punkIndexs : List Nat) (onBehalfOf : Address)
  | repayETH (punkIndex amount : Nat)
  | batchRepayETH (punkIndexs amounts : List Nat)
  | buyItNowETH (punkIndex : Nat) (onBehalfOf : Address)
  | redeemETH (punkIndex amount buyItNowFine : Nat)
  | liquidateETH (punkIndex : Nat)
  deriving DecidableEq

inductive GatewayCall
  | weth (call : WETHGatewayCall)
  | punk (call : PunkGatewayCall)
  deriving DecidableEq

section Calls

variable (setup : GatewaySetup)

def WETHGatewayCall.payable : WETHGatewayCall → Bool
  | .withdrawETH .. | .borrowETH .. | .batchBorrowETH .. => false
  | _ => true

def PunkGatewayCall.payable : PunkGatewayCall → Bool
  | .repayETH .. | .batchRepayETH .. | .buyItNowETH .. | .redeemETH .. | .liquidateETH .. => true
  | _ => false

def GatewayCall.payable : GatewayCall → Bool
  | .weth call => call.payable
  | .punk call => call.payable

def GatewayCall.gateway : GatewayCall → Nat
  | .weth _ => setup.wethGateway
  | .punk _ => setup.punkGateway

def WETHGatewayCall.execute (w : World) (caller value : Nat) :
    WETHGatewayCall → Except Revert World
  | .depositETH onBehalfOf => WETHGateway.depositETH setup w caller value onBehalfOf
  | .withdrawETH amount recipient => WETHGateway.withdrawETH setup w caller amount recipient
  | .borrowETH amount nftAsset nftTokenId onBehalfOf =>
    WETHGateway.borrowETH setup w caller amount nftAsset nftTokenId onBehalfOf
  | .batchBorrowETH amounts nftAssets nftTokenIds onBehalfOf =>
    WETHGateway.batchBorrowETH setup w caller amounts nftAssets nftTokenIds onBehalfOf
  | .repayETH nftAsset nftTokenId amount =>
    Prod.fst <$> WETHGateway.repayETH setup w caller value nftAsset nftTokenId amount
  | .batchRepayETH nftAssets nftTokenIds amounts =>
    Prod.fst <$> WETHGateway.batchRepayETH setup w caller value nftAssets nftTokenIds amounts
  | .buyItNowETH nftAsset nftTokenId onBehalfOf =>
    WETHGateway.buyItNowETH setup w caller value nftAsset nftTokenId onBehalfOf
  | .redeemETH nftAsset nftTokenId amount buyItNowFine =>
    Prod.fst <$> WETHGateway.redeemETH setup w caller value nftAsset nftTokenId amount buyItNowFine
  | .liquidateETH nftAsset nftTokenId =>
    Prod.fst <$> WETHGateway.liquidateETH setup w caller value nftAsset nftTokenId

def PunkGatewayCall.execute (w : World) (caller value : Nat) :
    PunkGatewayCall → Except Revert World
  | .borrow reserveAsset amount punkIndex onBehalfOf =>
    PunkGateway.borrow setup w caller reserveAsset amount punkIndex onBehalfOf
  | .batchBorrow reserveAssets amounts punkIndexs onBehalfOf =>
    PunkGateway.batchBorrow setup w caller reserveAssets amounts punkIndexs onBehalfOf
  | .repay punkIndex amount => Prod.fst <$> PunkGateway.repay setup w caller punkIndex amount
  | .batchRepay punkIndexs amounts =>
    Prod.fst <$> PunkGateway.batchRepay setup w caller punkIndexs amounts
  | .buyItNow punkIndex buyItNowPrice onBehalfOf =>
    PunkGateway.buyItNow setup w caller punkIndex buyItNowPrice onBehalfOf
  | .redeem punkIndex amount buyItNowFine =>
    Prod.fst <$> PunkGateway.redeem setup w caller punkIndex amount buyItNowFine
  | .liquidate punkIndex amount =>
    Prod.fst <$> PunkGateway.liquidate setup w caller punkIndex amount
  | .borrowETH amount punkIndex onBehalfOf =>
    PunkGateway.borrowETH setup w caller amount punkIndex onBehalfOf
  | .batchBorrowETH amounts punkIndexs onBehalfOf =>
    PunkGateway.batchBorrowETH setup w caller amounts punkIndexs onBehalfOf
  | .repayETH punkIndex amount =>
    Prod.fst <$> PunkGateway.repayETH setup w caller value punkIndex amount
  | .batchRepayETH punkIndexs amounts =>
    Prod.fst <$> PunkGateway.batchRepayETH setup w caller value punkIndexs amounts
  | .buyItNowETH punkIndex onBehalfOf =>
    PunkGateway.buyItNowETH setup w caller value punkIndex onBehalfOf
  | .redeemETH punkIndex amount buyItNowFine =>
    Prod.fst <$> PunkGateway.redeemETH setup w caller value punkIndex amount buyItNowFine
  | .liquidateETH punkIndex =>
    Prod.fst <$> PunkGateway.liquidateETH setup w caller value punkIndex

def GatewayCall.execute (w : World) (caller value : Nat) : GatewayCall → Except Revert World
  | .weth call => call.execute setup w caller value
  | .punk call => call.execute setup w caller value

/-- A transaction of an account: a fresh record, the ether, and the code. -/
def GatewayCall.run (w : World) (caller value : Nat) (call : GatewayCall) :
    Except Revert World := do
  require (call.payable = false → value = 0) (.message "non-payable function")
  let w := { w with poolCalls := [] }
  let w ← w.sendEther (.account caller) (.account (call.gateway setup)) value
  call.execute setup w caller value

end Calls

/-- A step of the world: an operation of the protocol, a call of a gateway, or anything
that happens to what is not the protocol's. -/
inductive WorldStep
  | protocol (operation : Operation)
  | gateway (caller value : Nat) (call : GatewayCall)
  | outside (ether : Address → Nat) (acceptsETH : Address → Bool) (punks : CryptoPunks)
      (wrapperPaused : Bool) (wethWhitelist punkWhitelist : Address → Bool)

def WorldStep.run (setup : GatewaySetup) (w : World) : WorldStep → Except Revert World
  | .protocol operation => w.call operation
  | .gateway caller value call => call.run setup w caller value
  | .outside ether acceptsETH punks wrapperPaused wethWhitelist punkWhitelist =>
    pure { w with ether, acceptsETH, punks, wrapperPaused, wethWhitelist, punkWhitelist }

/-- The protocol is as deployed; the rest of the world is arbitrary. -/
def worlds (setup : GatewaySetup) : System World WorldStep Revert :=
  ⟨fun w => Genesis w.state, WorldStep.run setup⟩

end Confetti
