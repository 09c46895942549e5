import Confetti.Gateway.Refinement
import Confetti.Properties.IdleAccounts

/-! The gateways under their owners. An owner approves the pool, keeps the list of callers that
may act for others, and recovers what is stuck in a gateway. A gateway calls nothing but what is
in its code. -/
namespace Confetti
open Outcome TransitionSystem

inductive Gateway
  | weth
  | punk
  deriving DecidableEq

/-- What a gateway stores of `Initializable` and `Ownable`. -/
structure Control where
  initialized : Bool
  owner : Address
  deriving DecidableEq

structure OwnedWorld where
  world : World
  control : Gateway → Control

/-- The functions of a gateway that the users have no business with. A gateway's fallback
rejects those that it does not have. -/
inductive OwnerCall
  | initializer
  | authorizeLendPoolNFT (nftAssets : List Address)
  | authorizeLendPoolERC20 (tokens : List Address)
  | authorizeCallerWhitelist (callers : List Address) (flag : Bool)
  | emergencyERC20Transfer (token recipient : Address) (amount : Nat)
  | emergencyERC721Transfer (token recipient : Address) (tokenId : Nat)
  | emergencyPunksTransfer (recipient : Address) (punkIndex : Nat)
  | emergencyEtherTransfer (recipient : Address) (amount : Nat)
  | transferOwnership (newOwner : Address)
  | renounceOwnership
  deriving DecidableEq

def Gateway.account (setup : GatewaySetup) : Gateway → Nat
  | .weth => setup.wethGateway
  | .punk => setup.punkGateway

namespace World

variable (setup : GatewaySetup) (w : World) (gateway : Nat)

/-! Calls of a token whose address the caller chooses: the receipts and debts of the protocol
have code of their own. -/

def transferToken (token recipient : Address) (amount : Nat) : Except Revert World :=
  match token with
  | .cToken asset => w.call (.user (.transferCToken gateway asset recipient amount))
  | .debtToken _ => .error (.message "TRANSFER_NOT_SUPPORTED")
  | _ => w.call (.token (.transfer gateway token recipient amount))

def approveToken (token spender : Address) (amount : Nat) : Except Revert World :=
  match token with
  | .cToken asset => w.call (.user (.approveCToken gateway asset spender amount))
  | .debtToken _ => .error (.message "APPROVAL_NOT_SUPPORTED")
  | _ => w.call (.token (.approve gateway token spender amount))

def transferNFT (nftAsset recipient : Address) (tokenId : Nat) : Except Revert World :=
  match nftAsset with
  | .cNFT _ => .error (.message "TRANSFER_NOT_SUPPORTED")
  | _ => w.call (.token (.safeTransferNFT gateway nftAsset (.account gateway) recipient tokenId))

def approveNFTs (nftAsset operator : Address) : Except Revert World :=
  match nftAsset with
  | .cNFT _ => .error (.message "APPROVAL_NOT_SUPPORTED")
  | _ => w.call (.token (.setApprovalForAll gateway nftAsset operator true))

def withWhitelist (whitelisted : Gateway) (callers : List Address) (flag : Bool) : World :=
  match whitelisted with
  | .weth => { w with
      wethWhitelist := callers.foldl (fun list caller => Function.update list caller flag)
        w.wethWhitelist }
  | .punk => { w with
      punkWhitelist := callers.foldl (fun list caller => Function.update list caller flag)
        w.punkWhitelist }

end World

namespace OwnedWorld

variable (setup : GatewaySetup) (c : OwnedWorld)

def withWorld (world : World) : OwnedWorld := { c with world }

def withOwner (gateway : Gateway) (owner : Address) : OwnedWorld :=
  { c with control := Function.update c.control gateway ⟨(c.control gateway).initialized, owner⟩ }

def onlyOwner (gateway : Gateway) (caller : Nat) : Except Revert Unit :=
  require ((c.control gateway).owner = .account caller)
    (.message "Ownable: caller is not the owner")

/-- What a gateway approves when it is initialized. -/
def approvals (w : World) : Gateway → Except Revert World
  | .weth => w.approveToken setup.wethGateway setup.wethAsset .lendPool Uint256.max
  | .punk => do
    let w ← w.approveNFTs setup.punkGateway setup.punkAsset .lendPool
    w.approveNFTs setup.punkGateway setup.punkAsset (.account setup.wethGateway)

def ownerCall (caller : Nat) (gateway : Gateway) : OwnerCall → Except Revert OwnedWorld
  | .initializer => do
    require ((c.control gateway).initialized = false)
      (.message "Initializable: contract is already initialized")
    let world ← approvals setup c.world gateway
    pure { c with
      world
      control := Function.update c.control gateway ⟨true, .account caller⟩ }
  | .authorizeLendPoolNFT nftAssets => do
    require (gateway = .weth) (.message "Fallback not allowed")
    c.onlyOwner gateway caller
    c.withWorld <$> nftAssets.foldlM
      (fun w nftAsset => w.approveNFTs (gateway.account setup) nftAsset .lendPool) c.world
  | .authorizeLendPoolERC20 tokens => do
    require (gateway = .punk) (.message "Fallback not allowed")
    c.onlyOwner gateway caller
    c.withWorld <$> tokens.foldlM
      (fun w token => w.approveToken (gateway.account setup) token .lendPool Uint256.max) c.world
  | .authorizeCallerWhitelist callers flag => do
    c.onlyOwner gateway caller
    pure (c.withWorld (c.world.withWhitelist gateway callers flag))
  | .emergencyERC20Transfer token recipient amount => do
    c.onlyOwner gateway caller
    c.withWorld <$> c.world.transferToken (gateway.account setup) token recipient amount
  | .emergencyERC721Transfer token recipient tokenId => do
    c.onlyOwner gateway caller
    c.withWorld <$> c.world.transferNFT (gateway.account setup) token recipient tokenId
  | .emergencyPunksTransfer recipient punkIndex => do
    c.onlyOwner gateway caller
    c.withWorld <$> c.world.transferPunk (gateway.account setup) recipient punkIndex
  | .emergencyEtherTransfer recipient amount => do
    c.onlyOwner gateway caller
    c.withWorld <$> c.world.safeTransferETH setup (gateway.account setup) recipient amount
  | .transferOwnership newOwner => do
    c.onlyOwner gateway caller
    require (newOwner ≠ .zero) (.message "Ownable: new owner is the zero address")
    pure (c.withOwner gateway newOwner)
  | .renounceOwnership => do
    c.onlyOwner gateway caller
    pure (c.withOwner gateway .zero)

end OwnedWorld

/-- A step of the world, or a call of an owner's function. The whitelists are no longer open to
the outside. -/
inductive OwnedStep
  | protocol (operation : Operation)
  | gateway (caller value : Nat) (call : GatewayCall)
  | owner (caller : Nat) (gateway : Gateway) (call : OwnerCall)
  | outside (ether : Address → Nat) (acceptsETH : Address → Bool) (punks : CryptoPunks)
      (wrapperPaused : Bool)

def OwnedStep.caller : OwnedStep → Option Nat
  | .protocol operation => operation.caller
  | .gateway caller _ _ | .owner caller _ _ => some caller
  | .outside .. => none

def OwnedStep.run (setup : GatewaySetup) (c : OwnedWorld) (step : OwnedStep) :
    Except Revert OwnedWorld := do
  require (step.caller ≠ some setup.wethGateway ∧ step.caller ≠ some setup.punkGateway)
    (.message "no code of a gateway")
  match step with
  | .protocol operation => c.withWorld <$> c.world.call operation
  | .gateway caller value call => c.withWorld <$> call.run setup c.world caller value
  | .owner caller called call => c.ownerCall setup caller called call
  | .outside ether acceptsETH punks wrapperPaused =>
    pure (c.withWorld { c.world with ether, acceptsETH, punks, wrapperPaused })

structure OwnedWorld.Genesis (c : OwnedWorld) : Prop where
  protocol : Confetti.Genesis c.world.state
  controls : c.control = fun _ => ⟨false, .zero⟩
  wethWhitelist : c.world.wethWhitelist = fun _ => false
  punkWhitelist : c.world.punkWhitelist = fun _ => false

def ownedWorlds (setup : GatewaySetup) : System OwnedWorld OwnedStep Revert :=
  ⟨OwnedWorld.Genesis, OwnedStep.run setup⟩

/-! ### The protocol under the gateways -/

variable {setup : GatewaySetup} {c c' : OwnedWorld} {w : World}

def stateOf (c : OwnedWorld) : State := c.world.state

namespace World

variable {gateway amount tokenId : Nat} {token recipient spender nftAsset operator : Address}

theorem transferToken_advances :
    Advances operations w.state World.state (w.transferToken gateway token recipient amount) := by
  cases token with
  | cToken => exact call_advances _
  | debtToken => exact advances_error _
  | zero | account | lendPool | lendPoolLoan | cNFT => exact call_advances _

theorem approveToken_advances :
    Advances operations w.state World.state (w.approveToken gateway token spender amount) := by
  cases token with
  | cToken => exact call_advances _
  | debtToken => exact advances_error _
  | zero | account | lendPool | lendPoolLoan | cNFT => exact call_advances _

theorem transferNFT_advances :
    Advances operations w.state World.state (w.transferNFT gateway nftAsset recipient tokenId) := by
  cases nftAsset with
  | cNFT => exact advances_error _
  | zero | account | lendPool | lendPoolLoan | cToken | debtToken => exact call_advances _

theorem approveNFTs_advances :
    Advances operations w.state World.state (w.approveNFTs gateway nftAsset operator) := by
  cases nftAsset with
  | cNFT => exact advances_error _
  | zero | account | lendPool | lendPoolLoan | cToken | debtToken => exact call_advances _

@[simp] theorem withWhitelist_state (gateway : Gateway) (callers : List Address) (flag : Bool) :
    (w.withWhitelist gateway callers flag).state = w.state := by
  cases gateway with
  | weth => rfl
  | punk => rfl

end World

namespace OwnedWorld

theorem approvals_advances (gateway : Gateway) :
    Advances operations w.state World.state (approvals setup w gateway) := by
  cases gateway with
  | weth =>
    change Advances _ _ _ (w.approveToken _ setup.wethAsset _ _)
    exact World.approveToken_advances
  | punk => exact World.approveNFTs_advances.bind fun _ => World.approveNFTs_advances

theorem ownerCall_advances (caller : Nat) (gateway : Gateway) (call : OwnerCall) :
    Advances operations c.world.state stateOf (c.ownerCall setup caller gateway call) := by
  cases call with
  | initializer =>
    refine advances_skip fun _ => ?_
    exact (approvals_advances gateway).bind fun _ => advances_pure rfl
  | authorizeLendPoolNFT =>
    refine advances_skip fun _ => advances_skip fun _ => ?_
    exact (advances_foldlM _ (fun _ _ => World.approveNFTs_advances) c.world).map fun _ => rfl
  | authorizeLendPoolERC20 =>
    refine advances_skip fun _ => advances_skip fun _ => ?_
    exact (advances_foldlM _ (fun _ _ => World.approveToken_advances) c.world).map fun _ => rfl
  | authorizeCallerWhitelist =>
    exact advances_skip fun _ => advances_pure (World.withWhitelist_state _ _ _)
  | emergencyERC20Transfer =>
    exact advances_skip fun _ => World.transferToken_advances.map fun _ => rfl
  | emergencyERC721Transfer =>
    exact advances_skip fun _ => World.transferNFT_advances.map fun _ => rfl
  | emergencyPunksTransfer =>
    exact advances_skip fun _ => World.transferPunk_advances.map fun _ => rfl
  | emergencyEtherTransfer =>
    exact advances_skip fun _ => World.safeTransferETH_advances.map fun _ => rfl
  | transferOwnership =>
    exact advances_skip fun _ => advances_skip fun _ => advances_pure rfl
  | renounceOwnership => exact advances_skip fun _ => advances_pure rfl

end OwnedWorld

theorem OwnedStep.advances (c : OwnedWorld) (step : OwnedStep) :
    Advances operations (stateOf c) stateOf ((ownedWorlds setup).step c step) := by
  refine advances_skip fun _ => ?_
  cases step with
  | protocol operation => exact (World.call_advances operation).map fun _ => rfl
  | gateway caller value call =>
    have hcall : Advances operations c.world.state World.state
        (call.run setup c.world caller value) :=
      WorldStep.advances c.world (.gateway caller value call)
    exact hcall.map fun _ => rfl
  | owner caller called call => exact OwnedWorld.ownerCall_advances caller called call
  | outside => exact advances_pure rfl

theorem owned_reachable (h : Reachable (ownedWorlds setup) c) :
    Reachable operations c.world.state := by
  have hinit : ∀ c, (ownedWorlds setup).initial c → operations.initial (stateOf c) := by
    intro c hc
    have hgenesis : c.Genesis := hc
    exact hgenesis.protocol
  exact Reachable.refines hinit OwnedStep.advances h

end Confetti
