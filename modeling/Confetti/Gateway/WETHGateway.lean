import Confetti.Gateway.World

/-! `WETHGateway`: ether is wrapped on the way into the pool and unwrapped on the way
out. The ether that came with a call is in the gateway's account when its code starts. -/
namespace Confetti
open Outcome

/-- `_checkValidCallerAndOnBehalfOf`, the same code in both gateways. -/
def checkValidCallerAndOnBehalfOf (callerWhitelists : Address → Bool) (msgSender : Nat)
    (onBehalfOf : Address) : Except Revert Unit :=
  require (onBehalfOf = .account msgSender ∨ callerWhitelists (.account msgSender) = true)
    (.error .CALLER_NOT_ONBEHALFOF_OR_IN_WHITELIST)

namespace WETHGateway
open LendPoolLoan

section Calls

variable (setup : GatewaySetup) (w : World) (msgSender : Nat)

def depositETH (msgValue : Nat) (onBehalfOf : Address) : Except Revert World := do
  checkValidCallerAndOnBehalfOf w.wethWhitelist msgSender onBehalfOf
  let w ← w.depositWETH setup setup.wethGateway msgValue
  w.callPool (.deposit setup.wethGateway setup.wethAsset msgValue onBehalfOf)

def withdrawETH (amount : Nat) (recipient : Address) : Except Revert World := do
  checkValidCallerAndOnBehalfOf w.wethWhitelist msgSender recipient
  let bWETH := (w.state.pool.reserves setup.wethAsset).cTokenAddress
  let userBalance ← CToken.balanceOf w.state bWETH (.account msgSender)
  -- if amount is equal to uint(-1), the user wants to redeem everything
  let amountToWithdraw := if amount = Uint256.max then userBalance else amount
  let w ← w.call (.user (.transferCTokenFrom setup.wethGateway setup.wethAsset (.account msgSender)
    (.account setup.wethGateway) amountToWithdraw))
  let w ← w.callPool (.withdraw setup.wethGateway setup.wethAsset amountToWithdraw
    (.account setup.wethGateway))
  let w ← w.withdrawWETH setup setup.wethGateway amountToWithdraw
  w.safeTransferETH setup setup.wethGateway recipient amountToWithdraw

/-- An NFT without a loan is taken from the sender first. -/
def takeNFT (nftAsset : Address) (nftTokenId : Nat) : Except Revert World :=
  if getCollateralLoanId w.state nftAsset nftTokenId = 0 then
    w.call (.token (.safeTransferNFT setup.wethGateway nftAsset (.account msgSender)
      (.account setup.wethGateway) nftTokenId))
  else pure w

/-- What `borrowETH` does, and `batchBorrowETH` in every pass. -/
def borrowItemETH (onBehalfOf : Address) (nftAsset : Address) (nftTokenId amount : Nat) :
    Except Revert World := do
  let w ← takeNFT setup w msgSender nftAsset nftTokenId
  let w ← w.callPool (.borrow setup.wethGateway setup.wethAsset amount nftAsset nftTokenId
    onBehalfOf)
  let w ← w.withdrawWETH setup setup.wethGateway amount
  w.safeTransferETH setup setup.wethGateway onBehalfOf amount

def borrowETH (amount : Nat) (nftAsset : Address) (nftTokenId : Nat) (onBehalfOf : Address) :
    Except Revert World := do
  checkValidCallerAndOnBehalfOf w.wethWhitelist msgSender onBehalfOf
  borrowItemETH setup w msgSender onBehalfOf nftAsset nftTokenId amount

def batchBorrowETH (amounts : List Nat) (nftAssets : List Address) (nftTokenIds : List Nat)
    (onBehalfOf : Address) : Except Revert World := do
  require (nftAssets.length = nftTokenIds.length) (.message "inconsistent tokenIds length")
  require (nftAssets.length = amounts.length) (.message "inconsistent amounts length")
  checkValidCallerAndOnBehalfOf w.wethWhitelist msgSender onBehalfOf
  (nftAssets.zip (nftTokenIds.zip amounts)).foldlM
    (fun w item => borrowItemETH setup w msgSender onBehalfOf item.1 item.2.1 item.2.2) w

/-- `_repayETH` -/
def repayItemETH (msgValue : Nat) (nftAsset : Address) (nftTokenId amount accAmount : Nat) :
    Except Revert (World × Nat × Bool) := do
  let loanId := getCollateralLoanId w.state nftAsset nftTokenId
  require (loanId ≠ 0) (.message "collateral loan id not exist")
  let borrowed ← getLoanReserveBorrowAmount w.state loanId
  require (borrowed.1 = setup.wethAsset) (.message "loan reserve not WETH")
  let repayDebtAmount := if amount < borrowed.2 then amount else borrowed.2
  let needed ← Uint256.add accAmount repayDebtAmount
  require (needed ≤ msgValue) (.message "msg.value is less than repay amount")
  let w ← w.depositWETH setup setup.wethGateway repayDebtAmount
  w.repay setup.wethGateway nftAsset nftTokenId amount

def refundETH (gateway msgValue used : Nat) : Except Revert World :=
  if used < msgValue then w.safeTransferETH setup gateway (.account msgSender) (msgValue - used)
  else pure w

def repayETH (msgValue : Nat) (nftAsset : Address) (nftTokenId amount : Nat) :
    Except Revert (World × Nat × Bool) := do
  let r ← repayItemETH setup w msgValue nftAsset nftTokenId amount 0
  let w ← refundETH setup r.1 msgSender setup.wethGateway msgValue r.2.1
  pure (w, r.2)

/-- The world, the sum of the payments so far, and the results of a batch. -/
structure RepayBatch where
  world : World
  allRepayDebtAmount : Nat
  results : List (Nat × Bool)

def batchRepayETH (msgValue : Nat) (nftAssets : List Address) (nftTokenIds amounts : List Nat) :
    Except Revert (World × List (Nat × Bool)) := do
  require (nftAssets.length = amounts.length) (.message "inconsistent amounts length")
  require (nftAssets.length = nftTokenIds.length) (.message "inconsistent tokenIds length")
  let batch ← (nftAssets.zip (nftTokenIds.zip amounts)).foldlM
    (fun (batch : RepayBatch) item => do
      let r ← repayItemETH setup batch.world msgValue item.1 item.2.1 item.2.2
        batch.allRepayDebtAmount
      let all ← Uint256.add batch.allRepayDebtAmount r.2.1
      pure ⟨r.1, all, batch.results ++ [r.2]⟩)
    ⟨w, 0, []⟩
  let w ← refundETH setup batch.world msgSender setup.wethGateway msgValue
    batch.allRepayDebtAmount
  pure (w, batch.results)

/-- The NFT has a loan, and the loan is one of WETH. -/
def checkLoanOfWETH (nftAsset : Address) (nftTokenId : Nat) : Except Revert Unit := do
  let loanId := getCollateralLoanId w.state nftAsset nftTokenId
  require (loanId ≠ 0) (.message "collateral loan id not exist")
  require ((getLoan w.state loanId).reserveAsset = setup.wethAsset)
    (.message "loan reserve not WETH")

def buyItNowETH (msgValue : Nat) (nftAsset : Address) (nftTokenId : Nat)
    (onBehalfOf : Address) : Except Revert World := do
  checkValidCallerAndOnBehalfOf w.wethWhitelist msgSender onBehalfOf
  checkLoanOfWETH setup w nftAsset nftTokenId
  let w ← w.depositWETH setup setup.wethGateway msgValue
  w.callPool (.buyItNow setup.wethGateway nftAsset nftTokenId msgValue onBehalfOf)

/-- Unwrap and send back what the pool did not take of the wrapped ether. -/
def refundWETH (msgValue used : Nat) : Except Revert World :=
  if used < msgValue then do
    let w ← w.withdrawWETH setup setup.wethGateway (msgValue - used)
    w.safeTransferETH setup setup.wethGateway (.account msgSender) (msgValue - used)
  else pure w

def redeemETH (msgValue : Nat) (nftAsset : Address) (nftTokenId amount buyItNowFine : Nat) :
    Except Revert (World × Nat) := do
  checkLoanOfWETH setup w nftAsset nftTokenId
  let total ← Uint256.add amount buyItNowFine
  require (total ≤ msgValue) (.message "msg.value is less than redeem amount")
  let w ← w.depositWETH setup setup.wethGateway msgValue
  let r ← w.redeem setup.wethGateway nftAsset nftTokenId amount buyItNowFine
  let w ← refundWETH setup r.1 msgSender msgValue r.2
  pure (w, r.2)

def liquidateETH (msgValue : Nat) (nftAsset : Address) (nftTokenId : Nat) :
    Except Revert (World × Nat) := do
  checkLoanOfWETH setup w nftAsset nftTokenId
  let w ← (if msgValue > 0 then w.depositWETH setup setup.wethGateway msgValue else pure w)
  let r ← w.liquidate setup.wethGateway nftAsset nftTokenId msgValue
  let w ← refundWETH setup r.1 msgSender msgValue r.2
  pure (w, r.2)

end Calls

end WETHGateway

end Confetti
