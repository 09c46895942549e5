import Mathlib.Data.List.Nodup
import Confetti.Protocol.System
import Confetti.Tokens.CryptoPunks

/-! The world of the gateways: the protocol, ether, the wrapped ether contract, and the
punks with their wrapper. What a gateway's code can do is a program on this world. -/
namespace Confetti
open Outcome TransitionSystem

/-- The contracts the gateways were initialized with, all of them different. `proxy` is
what `wrappedPunks.proxyInfo` answered for the punk gateway. -/
structure GatewaySetup where
  weth : Nat
  wethGateway : Nat
  punkGateway : Nat
  wrappedPunks : Nat
  proxy : Nat
  nodup : [weth, wethGateway, punkGateway, wrappedPunks, proxy].Nodup

namespace GatewaySetup

variable (setup : GatewaySetup)

/-- The address of `WETH`, which is also the reserve asset. -/
def wethAsset : Address := .account setup.weth

/-- The address of `wrappedPunks`, which is also the collection. -/
def punkAsset : Address := .account setup.wrappedPunks

def IsGateway (a : Address) : Prop :=
  a = .account setup.wethGateway ∨ a = .account setup.punkGateway

instance (a : Address) : Decidable (setup.IsGateway a) := inferInstanceAs (Decidable (_ ∨ _))

end GatewaySetup

/-- `acceptsETH` tells who else takes a bare payment of ether. `poolCalls` records the
calls of the pool that the gateways make in one transaction, oldest first. -/
structure World where
  state : State
  ether : Address → Nat
  acceptsETH : Address → Bool
  punks : CryptoPunks
  wrapperPaused : Bool
  wethWhitelist : Address → Bool
  punkWhitelist : Address → Bool
  poolCalls : List (Transition State UserCall)

namespace World

variable (setup : GatewaySetup) (w : World)

def call (operation : Operation) : Except Revert World := do
  let state ← operation.run w.state
  pure { w with state }

def called (poolCall : UserCall) (state : State) : World :=
  { w with state, poolCalls := w.poolCalls ++ [⟨w.state, poolCall, state⟩] }

def callPool (poolCall : UserCall) : Except Revert World := do
  let state ← poolCall.run w.state
  pure (w.called poolCall state)

/-! Calls of the pool whose results they use. -/

def repay (caller : Nat) (nftAsset : Address) (nftTokenId amount : Nat) :
    Except Revert (World × Nat × Bool) := do
  let r ← LendPool.repay w.state (.account caller) nftAsset nftTokenId amount
  pure (w.called (.repay caller nftAsset nftTokenId amount) r.1, r.2)

def redeem (caller : Nat) (nftAsset : Address) (nftTokenId amount buyItNowFine : Nat) :
    Except Revert (World × Nat) := do
  let r ← LendPool.redeem w.state (.account caller) nftAsset nftTokenId amount buyItNowFine
  pure (w.called (.redeem caller nftAsset nftTokenId amount buyItNowFine) r.1, r.2)

def liquidate (caller : Nat) (nftAsset : Address) (nftTokenId amount : Nat) :
    Except Revert (World × Nat) := do
  let r ← LendPool.liquidate w.state (.account caller) nftAsset nftTokenId amount
  pure (w.called (.liquidate caller nftAsset nftTokenId amount) r.1, r.2)

/-! ### Ether -/

def sendEther (sender recipient : Address) (value : Nat) : Except Revert World := do
  require (value ≤ w.ether sender) (.message "insufficient balance for transfer")
  pure { w with ether := ERC20.moved w.ether sender recipient value }

/-- `WETH.deposit` -/
def depositWETH (caller value : Nat) : Except Revert World := do
  let w ← w.sendEther (.account caller) setup.wethAsset value
  w.call (.token (.mint setup.wethAsset (.account caller) value))

/-- `WETH.withdraw`; the gateways accept ether from it. -/
def withdrawWETH (caller wad : Nat) : Except Revert World := do
  let w ← w.call (.token (.burn caller setup.wethAsset wad))
  w.sendEther setup.wethAsset (.account caller) wad

/-- Whether the recipient takes a payment of a gateway: the WETH gateway takes none but
those of WETH, the punk gateway takes all. -/
def receives (recipient : Address) : Bool :=
  if recipient = .account setup.wethGateway then false
  else if recipient = .account setup.punkGateway then true
  else w.acceptsETH recipient

/-- `_safeTransferETH`; to pay WETH is to deposit there. -/
def safeTransferETH (caller : Nat) (recipient : Address) (value : Nat) : Except Revert World := do
  require (value ≤ w.ether (.account caller)) (.message "ETH_TRANSFER_FAILED")
  if recipient = setup.wethAsset then w.depositWETH setup caller value
  else do
    require (w.receives setup recipient = true) (.message "ETH_TRANSFER_FAILED")
    w.sendEther (.account caller) recipient value

/-! ### Punks -/

/-- `punks.buyPunk`, without any ether. -/
def buyPunk (caller punkIndex : Nat) : Except Revert World := do
  let punks ← w.punks.buyPunk (.account caller) 0 punkIndex
  pure { w with punks }

def transferPunk (caller : Nat) (recipient : Address) (punkIndex : Nat) : Except Revert World := do
  let punks ← w.punks.transferPunk (.account caller) recipient punkIndex
  pure { w with punks }

/-- `wrappedPunks.mint` of the punk gateway: its proxy hands the punk to the wrapper. -/
def mintWrapped (punkIndex : Nat) : Except Revert World := do
  require (w.wrapperPaused = false) (.message "Pausable: paused")
  match w.transferPunk setup.proxy setup.punkAsset punkIndex with
  | .error _ => .error (.message "PunkWrapper: transfer fail")
  | .ok w => w.call (.token (.mintNFT setup.punkAsset (.account setup.punkGateway) punkIndex))

/-- `wrappedPunks.burn` of the punk gateway: the wrapper hands the punk back. -/
def burnWrapped (punkIndex : Nat) : Except Revert World := do
  require (w.wrapperPaused = false) (.message "Pausable: paused")
  let w ← w.call (.token (.burnNFT setup.punkGateway setup.punkAsset punkIndex))
  w.transferPunk setup.wrappedPunks (.account setup.punkGateway) punkIndex

section Spec

variable {setup : GatewaySetup} {w w' : World} {sender recipient : Address} {caller value : Nat}

theorem call_eq_ok {operation : Operation} :
    w.call operation = .ok w' ↔ ∃ state, operation.run w.state = .ok state ∧
      w' = { w with state } := bind_pure_eq_ok

theorem callPool_eq_ok {poolCall : UserCall} :
    w.callPool poolCall = .ok w' ↔ ∃ state, poolCall.run w.state = .ok state ∧
      w' = w.called poolCall state := bind_pure_eq_ok

theorem sendEther_eq_ok :
    w.sendEther sender recipient value = .ok w' ↔ value ≤ w.ether sender ∧
      w' = { w with ether := ERC20.moved w.ether sender recipient value } := by
  simp only [sendEther, bind_eq_ok, require_eq_ok, exists_const, pure_eq_ok]
  exact and_congr_right fun _ => eq_comm

theorem withdrawWETH_eq_ok :
    w.withdrawWETH setup caller value = .ok w' ↔ ∃ ledger,
      ERC20.burn setup.wethAsset (w.state.erc20 setup.wethAsset) (.account caller) value =
          .ok ledger ∧ value ≤ w.ether setup.wethAsset ∧
        w' = { w with
          state := w.state.withERC20 setup.wethAsset ledger
          ether := ERC20.moved w.ether setup.wethAsset (.account caller) value } := by
  simp only [withdrawWETH, bind_eq_ok, call_eq_ok, Operation.run, TokenCall.run, map_eq_ok,
    sendEther_eq_ok]
  constructor
  · rintro ⟨_, ⟨_, ⟨ledger, hledger, rfl⟩, rfl⟩, hether, rfl⟩
    exact ⟨ledger, hledger, hether, rfl⟩
  · rintro ⟨ledger, hledger, hether, rfl⟩
    exact ⟨_, ⟨_, ⟨ledger, hledger, rfl⟩, rfl⟩, hether, rfl⟩

theorem safeTransferETH_eq_ok (hrecipient : recipient ≠ setup.wethAsset) :
    w.safeTransferETH setup caller recipient value = .ok w' ↔ value ≤ w.ether (.account caller) ∧
      w.receives setup recipient = true ∧
        w' = { w with ether := ERC20.moved w.ether (.account caller) recipient value } := by
  simp only [safeTransferETH, if_neg hrecipient, bind_eq_ok, require_eq_ok, exists_const,
    sendEther_eq_ok]
  constructor
  · rintro ⟨hether, hreceives, -, rfl⟩
    exact ⟨hether, hreceives, rfl⟩
  · rintro ⟨hether, hreceives, rfl⟩
    exact ⟨hether, hreceives, hether, rfl⟩

end Spec

end World

end Confetti
