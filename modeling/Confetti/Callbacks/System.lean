import Confetti.Effects.Steps

/-! The protocol when the receivers of NFTs are contracts with code of their own. A receiver
gets control inside the call that hands it the NFT, and may make calls there, which may
hand out NFTs again. What it does is a list of calls, one for each time it gets control. -/
namespace Confetti
open Outcome TransitionSystem

/-- A moment within a transaction. `entered` is the `_status` of the pool's guard. -/
structure Execution where
  state : State
  entered : Bool

abbrev Callback := Execution → Except Revert Execution

namespace Execution

def nonReentrant (body : Callback) (g : Execution) : Except Revert Execution := do
  require (g.entered = false) (.message "ReentrancyGuard: reentrant call")
  let g ← body { g with entered := true }
  pure { g with entered := false }

/-- A contract of a third party; the protocol's own contracts answer and do nothing else. -/
def hasCode (g : Execution) : Address → Bool
  | .account n => g.state.accounts n != .externallyOwned
  | _ => false

/-- `onERC721Received` of whoever just got an NFT. -/
def received (g : Execution) (recipient : Address) (callback : Callback) :
    Except Revert Execution :=
  if g.hasCode recipient then callback g else pure g

end Execution

namespace LendPool
open LendPoolLoan

/-- The hand-over to the borrower is the last thing a full repayment does. -/
def repayItem (g : Execution) (params : ExecuteRepayParams) (callback : Callback) :
    Except Revert (Execution × Nat × Bool) := do
  let loanData := getLoan g.state (getCollateralLoanId g.state params.nftAsset params.nftTokenId)
  let r ← BorrowLogic.repay g.state params
  let g := { g with state := r.1 }
  let g ← (if r.2.2 then g.received loanData.borrower callback else pure g)
  pure (g, r.2)

def repayWith (caller nftAsset : Address) (nftTokenId amount : Nat) (callback : Callback) :
    Callback :=
  Execution.nonReentrant fun g => do
    whenNotPaused g.state
    let r ← repayItem g { initiator := caller, nftAsset, nftTokenId, amount } callback
    pure r.1

/-- One pass of the loop over a batch; the list of receivers moves along. -/
def repayEach (g : Execution) : List ExecuteRepayParams → List Callback → Except Revert Execution
  | [], _ => pure g
  | item :: items, callbacks => do
    let r ← repayItem g item (callbacks.headD pure)
    repayEach r.1 items callbacks.tail

def batchRepayWith (caller : Address) (nftAssets : List Address) (nftTokenIds amounts : List Nat)
    (callbacks : List Callback) : Callback :=
  Execution.nonReentrant fun g => do
    whenNotPaused g.state
    require (nftAssets.length = amounts.length) (.message "inconsistent amounts length")
    require (nftAssets.length = nftTokenIds.length) (.message "inconsistent tokenIds length")
    repayEach g (BorrowLogic.repayItems { initiator := caller, nftAssets, nftTokenIds, amounts })
      callbacks

/-- The hand-over to the buyer is the last thing a liquidation does. -/
def liquidateWith (caller nftAsset : Address) (nftTokenId amount : Nat) (callback : Callback) :
    Callback :=
  Execution.nonReentrant fun g => do
    let loanData := getLoan g.state (getCollateralLoanId g.state nftAsset nftTokenId)
    let r ← LendPool.liquidate g.state caller nftAsset nftTokenId amount
    let g := { g with state := r.1 }
    g.received loanData.buyItNowBuyerAddress callback

end LendPool

namespace CNFT

/-- `burn` hands out the NFT before it burns the receipt. -/
def burnWith (address : Address) (caller : Nat) (tokenId : Nat) (callback : Callback)
    (g : Execution) : Except Revert Execution := do
  let asset ← State.cNFTAt address
  let self := g.state.cNFTs asset
  require (g.state.isContract (.account caller) = true) (.message "CNFT: caller is not contract")
  require (self.owners tokenId ≠ .zero) (.message "CNFT: nonexist token")
  require (self.minters tokenId = .account caller) (.message "CNFT: caller is not minter")
  let state ← g.state.safeTransferNFT asset (.cNFT asset) (.cNFT asset) (.account caller) tokenId
  let g := { g with state }
  let g ← g.received (.account caller) callback
  let self := g.state.cNFTs asset
  require (self.owners tokenId ≠ .zero) (.message "ERC721: owner query for nonexistent token")
  pure { g with
    state := { g.state with
      cNFTs := Function.update g.state.cNFTs asset
        ⟨Function.update self.owners tokenId .zero,
          Function.update self.minters tokenId .zero⟩ } }

/-- `ownerOf`, and that only the owner may take a flash loan. -/
def checkOwner (self : CNFT) (caller : Address) (tokenId : Nat) : Except Revert Unit := do
  require (self.owners tokenId ≠ .zero) (.message "ERC721: owner query for nonexistent token")
  require (self.owners tokenId = caller) (.message "CNFT: caller is not owner")

/-- Step 1: moving the NFTs forward; each hand-over gives the receiver control. -/
def lendEach (asset receiver : Address) (g : Execution) :
    List Nat → List Callback → Except Revert Execution
  | [], _ => pure g
  | tokenId :: tokenIds, callbacks => do
    let state ← g.state.safeTransferNFT asset (.cNFT asset) (.cNFT asset) receiver tokenId
    let g := { g with state }
    let g ← g.received receiver (callbacks.headD pure)
    lendEach asset receiver g tokenIds callbacks.tail

def returnEach (asset receiver : Address) (s : State) (tokenIds : List Nat) :
    Except Revert State :=
  tokenIds.foldlM (fun s tokenId =>
    s.safeTransferNFT asset (.cNFT asset) receiver (.cNFT asset) tokenId) s

/-- `result` is what `executeOperation` of the receiver returns. -/
def flashLoan (address : Address) (caller : Nat) (receiver : Address) (tokenIds : List Nat)
    (callbacks : List Callback) (executeOperation : Callback) (result : Bool) (g : Execution) :
    Except Revert Execution := do
  let asset ← State.cNFTAt address
  tokenIds.forM (checkOwner (g.state.cNFTs asset) (.account caller))
  let g ← lendEach asset receiver g tokenIds callbacks
  require (g.hasCode receiver = true) (.nonContract receiver)
  let g ← executeOperation g
  require (result = true) (.message "CNFT: invalid flashloan executor return")
  let state ← returnEach asset receiver g.state tokenIds
  pure { g with state }

end CNFT

/-! ### Calls within calls -/

/-- A call of an account, with what the receivers of NFTs do in it. -/
inductive Call
  | user (call : UserCall) (reaction : List Call)
  | token (call : TokenCall) (reaction : List Call)
  | batchBorrow (caller : Nat) (assets : List Address) (amounts : List Nat)
      (nftAssets : List Address) (nftTokenIds : List Nat) (onBehalfOf : Address)
  | batchRepay (caller : Nat) (nftAssets : List Address) (nftTokenIds amounts : List Nat)
      (reactions : List (List Call))
  | flashLoan (caller : Nat) (nftAsset receiver : Address) (nftTokenIds : List Nat)
      (reactions : List (List Call)) (execution : List Call) (result : Bool)

/-- Functions of the pool are guarded; those of tokens and of the cNFT registry are not. -/
def UserCall.runWith (callback : Callback) (g : Execution) : UserCall → Except Revert Execution
  | .repay caller nftAsset nftTokenId amount =>
    LendPool.repayWith (.account caller) nftAsset nftTokenId amount callback g
  | .liquidate caller nftAsset nftTokenId amount =>
    LendPool.liquidateWith (.account caller) nftAsset nftTokenId amount callback g
  | call =>
    let body : Callback := fun g => do
      let state ← call.run g.state
      pure { g with state }
    if call.entersPool then g.nonReentrant body else body g

def TokenCall.runWith (callback : Callback) (g : Execution) : TokenCall → Except Revert Execution
  | .safeTransferNFT caller nftAsset sender recipient tokenId => do
    let state ← g.state.safeTransferNFT nftAsset (.account caller) sender recipient tokenId
    let g := { g with state }
    g.received recipient callback
  | .burnCNFT caller nftAsset tokenId =>
    CNFT.burnWith (g.state.cNFTProxys nftAsset) caller tokenId callback g
  | call => do
    let state ← call.run g.state
    pure { g with state }

def LendPool.batchBorrowWith (caller : Nat) (assets : List Address) (amounts : List Nat)
    (nftAssets : List Address) (nftTokenIds : List Nat) (onBehalfOf : Address) : Callback :=
  Execution.nonReentrant fun g => do
    let state ← LendPool.batchBorrow g.state (.account caller) assets amounts nftAssets nftTokenIds
      onBehalfOf
    pure { g with state }

mutual

def Call.run : Call → Callback
  | .user call reaction => fun g => call.runWith (Call.runAll reaction) g
  | .token call reaction => fun g => call.runWith (Call.runAll reaction) g
  | .batchBorrow caller assets amounts nftAssets nftTokenIds onBehalfOf =>
    LendPool.batchBorrowWith caller assets amounts nftAssets nftTokenIds onBehalfOf
  | .batchRepay caller nftAssets nftTokenIds amounts reactions =>
    LendPool.batchRepayWith (.account caller) nftAssets nftTokenIds amounts
      (Call.callbacks reactions)
  | .flashLoan caller nftAsset receiver nftTokenIds reactions execution result => fun g =>
    CNFT.flashLoan (g.state.cNFTProxys nftAsset) caller receiver nftTokenIds
      (Call.callbacks reactions) (Call.runAll execution) result g

def Call.runAll : List Call → Callback
  | [] => pure
  | call :: calls => fun g => do
    let g ← call.run g
    Call.runAll calls g

def Call.callbacks : List (List Call) → List Callback
  | [] => []
  | reaction :: reactions => Call.runAll reaction :: Call.callbacks reactions

end

/-- Admins act in transactions of their own, and the world moves on between transactions. -/
inductive OuterCall
  | account (call : Call)
  | admin (call : AdminCall)
  | world (event : WorldEvent)

def OuterCall.run (g : Execution) : OuterCall → Except Revert Execution
  | .account call => call.run g
  | .admin call => do
    let state ← call.run g.state
    pure { g with state }
  | .world event => do
    let state ← event.run g.state
    pure { g with state }

/-- The protocol with receivers that call back; the guard is free at first. -/
def callbacks : System Execution OuterCall Revert :=
  ⟨fun g => Genesis g.state ∧ g.entered = false, OuterCall.run⟩

end Confetti
