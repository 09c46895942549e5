import Confetti.Gateway.WETHGateway

/-! `PunkGateway`: punks are wrapped on the way into the pool and unwrapped on the way
out. Loans of ether go through the WETH gateway, which sees this gateway as its sender. -/
namespace Confetti
open Outcome

namespace PunkGateway
open LendPoolLoan

section Calls

variable (setup : GatewaySetup) (w : World) (msgSender : Nat)

def payWETHGateway (value : Nat) : Except Revert World :=
  w.sendEther (.account setup.punkGateway) (.account setup.wethGateway) value

/-- `_depositPunk` -/
def depositPunk (punkIndex : Nat) : Except Revert World :=
  if getCollateralLoanId w.state setup.punkAsset punkIndex ≠ 0 then pure w
  else do
    require (w.punks.punkIndexToAddress punkIndex = .account msgSender)
      (.message "PunkGateway: not owner of punkIndex")
    let w ← w.buyPunk setup.punkGateway punkIndex
    let w ← w.transferPunk setup.punkGateway (.account setup.proxy) punkIndex
    w.mintWrapped setup punkIndex

/-- What `borrow` does, and `batchBorrow` in every pass. -/
def borrowItem (onBehalfOf : Address) (reserveAsset : Address) (amount punkIndex : Nat) :
    Except Revert World := do
  let w ← depositPunk setup w msgSender punkIndex
  let w ← w.callPool (.borrow setup.punkGateway reserveAsset amount setup.punkAsset punkIndex
    onBehalfOf)
  w.call (.token (.transfer setup.punkGateway reserveAsset onBehalfOf amount))

def borrow (reserveAsset : Address) (amount punkIndex : Nat) (onBehalfOf : Address) :
    Except Revert World := do
  checkValidCallerAndOnBehalfOf w.punkWhitelist msgSender onBehalfOf
  borrowItem setup w msgSender onBehalfOf reserveAsset amount punkIndex

def batchBorrow (reserveAssets : List Address) (amounts punkIndexs : List Nat)
    (onBehalfOf : Address) : Except Revert World := do
  require (punkIndexs.length = reserveAssets.length)
    (.message "inconsistent reserveAssets length")
  require (punkIndexs.length = amounts.length) (.message "inconsistent amounts length")
  checkValidCallerAndOnBehalfOf w.punkWhitelist msgSender onBehalfOf
  (reserveAssets.zip (amounts.zip punkIndexs)).foldlM
    (fun w item => borrowItem setup w msgSender onBehalfOf item.1 item.2.1 item.2.2) w

/-- `_withdrawPunk` -/
def withdrawPunk (punkIndex : Nat) (onBehalfOf : Address) : Except Revert World := do
  let owner ← (w.state.erc721 setup.punkAsset).ownerOf punkIndex
  require (owner = .account msgSender) (.message "PunkGateway: caller is not owner")
  require (owner = onBehalfOf) (.message "PunkGateway: onBehalfOf is not owner")
  let w ← w.call (.token (.safeTransferNFT setup.punkGateway setup.punkAsset onBehalfOf
    (.account setup.punkGateway) punkIndex))
  let w ← w.burnWrapped setup punkIndex
  w.transferPunk setup.punkGateway onBehalfOf punkIndex

/-- `_repay` -/
def repayItem (punkIndex amount : Nat) : Except Revert (World × Nat × Bool) := do
  let loanId := getCollateralLoanId w.state setup.punkAsset punkIndex
  require (loanId ≠ 0) (.message "PunkGateway: no loan with such punkIndex")
  let reserve := (getLoan w.state loanId).reserveAsset
  let borrowed ← getLoanReserveBorrowAmount w.state loanId
  let borrower := (getLoan w.state loanId).borrower
  let amount := if borrowed.2 < amount then borrowed.2 else amount
  let w ← w.call (.token (.transferFrom setup.punkGateway reserve (.account msgSender)
    (.account setup.punkGateway) amount))
  let r ← w.repay setup.punkGateway setup.punkAsset punkIndex amount
  let w ← (if r.2.2 = true then do
      require (borrower = .account msgSender) (.message "PunkGateway: caller is not borrower")
      withdrawPunk setup r.1 msgSender punkIndex borrower
    else pure r.1)
  pure (w, r.2)

def repay (punkIndex amount : Nat) : Except Revert (World × Nat × Bool) :=
  repayItem setup w msgSender punkIndex amount

def batchRepay (punkIndexs amounts : List Nat) : Except Revert (World × List (Nat × Bool)) := do
  require (punkIndexs.length = amounts.length) (.message "inconsistent amounts length")
  (punkIndexs.zip amounts).foldlM
    (fun (acc : World × List (Nat × Bool)) item => do
      let r ← repayItem setup acc.1 msgSender item.1 item.2
      pure (r.1, acc.2 ++ [r.2]))
    (w, [])

def buyItNow (punkIndex buyItNowPrice : Nat) (onBehalfOf : Address) : Except Revert World := do
  checkValidCallerAndOnBehalfOf w.punkWhitelist msgSender onBehalfOf
  let loanId := getCollateralLoanId w.state setup.punkAsset punkIndex
  require (loanId ≠ 0) (.message "PunkGateway: no loan with such punkIndex")
  let reserve := (getLoan w.state loanId).reserveAsset
  let w ← w.call (.token (.transferFrom setup.punkGateway reserve (.account msgSender)
    (.account setup.punkGateway) buyItNowPrice))
  w.callPool (.buyItNow setup.punkGateway setup.punkAsset punkIndex buyItNowPrice onBehalfOf)

/-- Send back what the pool did not take of the tokens. -/
def refund (reserve : Address) (amount used : Nat) : Except Revert World :=
  if used < amount then
    w.call (.token (.transfer setup.punkGateway reserve (.account msgSender) (amount - used)))
  else pure w

def redeem (punkIndex amount buyItNowFine : Nat) : Except Revert (World × Nat) := do
  let loanId := getCollateralLoanId w.state setup.punkAsset punkIndex
  require (loanId ≠ 0) (.message "PunkGateway: no loan with such punkIndex")
  let loan := getLoan w.state loanId
  let total ← Uint256.add amount buyItNowFine
  let w ← w.call (.token (.transferFrom setup.punkGateway loan.reserveAsset (.account msgSender)
    (.account setup.punkGateway) total))
  let r ← w.redeem setup.punkGateway setup.punkAsset punkIndex amount buyItNowFine
  let w ← refund setup r.1 msgSender loan.reserveAsset total r.2
  pure (w, r.2)

def liquidate (punkIndex amount : Nat) : Except Revert (World × Nat) := do
  let loanId := getCollateralLoanId w.state setup.punkAsset punkIndex
  require (loanId ≠ 0) (.message "PunkGateway: no loan with such punkIndex")
  let loan := getLoan w.state loanId
  require (loan.buyItNowBuyerAddress = .account msgSender)
    (.message "PunkGateway: caller is not buyItNowBuyer")
  let w ← (if amount > 0 then
      w.call (.token (.transferFrom setup.punkGateway loan.reserveAsset (.account msgSender)
        (.account setup.punkGateway) amount))
    else pure w)
  let r ← w.liquidate setup.punkGateway setup.punkAsset punkIndex amount
  let w ← withdrawPunk setup r.1 msgSender punkIndex loan.buyItNowBuyerAddress
  let w ← refund setup w msgSender loan.reserveAsset amount r.2
  pure (w, r.2)

/-! ### Loans of ether -/

def borrowETH (amount punkIndex : Nat) (onBehalfOf : Address) : Except Revert World := do
  checkValidCallerAndOnBehalfOf w.punkWhitelist msgSender onBehalfOf
  let w ← depositPunk setup w msgSender punkIndex
  WETHGateway.borrowETH setup w setup.punkGateway amount setup.punkAsset punkIndex onBehalfOf

def batchBorrowETH (amounts punkIndexs : List Nat) (onBehalfOf : Address) :
    Except Revert World := do
  require (punkIndexs.length = amounts.length) (.message "inconsistent amounts length")
  checkValidCallerAndOnBehalfOf w.punkWhitelist msgSender onBehalfOf
  let nftAssets := punkIndexs.map fun _ => setup.punkAsset
  let w ← punkIndexs.foldlM (fun w punkIndex => depositPunk setup w msgSender punkIndex) w
  WETHGateway.batchBorrowETH setup w setup.punkGateway amounts nftAssets punkIndexs onBehalfOf

/-- `_repayETH` -/
def repayItemETH (msgValue punkIndex amount accAmount : Nat) :
    Except Revert (World × Nat × Bool) := do
  let loanId := getCollateralLoanId w.state setup.punkAsset punkIndex
  require (loanId ≠ 0) (.message "PunkGateway: no loan with such punkIndex")
  let borrower := (getLoan w.state loanId).borrower
  require (borrower = .account msgSender) (.message "PunkGateway: caller is not borrower")
  let borrowed ← getLoanReserveBorrowAmount w.state loanId
  let repayDebtAmount := if amount < borrowed.2 then amount else borrowed.2
  let needed ← Uint256.add accAmount repayDebtAmount
  require (needed ≤ msgValue) (.message "msg.value is less than repay amount")
  let w ← payWETHGateway setup w repayDebtAmount
  let r ← WETHGateway.repayETH setup w setup.punkGateway repayDebtAmount setup.punkAsset punkIndex
    amount
  let w ← (if r.2.2 = true then withdrawPunk setup r.1 msgSender punkIndex borrower else pure r.1)
  pure (w, r.2)

def repayETH (msgValue punkIndex amount : Nat) : Except Revert (World × Nat × Bool) := do
  let r ← repayItemETH setup w msgSender msgValue punkIndex amount 0
  let w ← WETHGateway.refundETH setup r.1 msgSender setup.punkGateway msgValue r.2.1
  pure (w, r.2)

def batchRepayETH (msgValue : Nat) (punkIndexs amounts : List Nat) :
    Except Revert (World × List (Nat × Bool)) := do
  require (punkIndexs.length = amounts.length) (.message "inconsistent amounts length")
  let batch ← (punkIndexs.zip amounts).foldlM
    (fun (batch : WETHGateway.RepayBatch) item => do
      let r ← repayItemETH setup batch.world msgSender msgValue item.1 item.2
        batch.allRepayDebtAmount
      let all ← Uint256.add batch.allRepayDebtAmount r.2.1
      pure ⟨r.1, all, batch.results ++ [r.2]⟩)
    ⟨w, 0, []⟩
  let w ← WETHGateway.refundETH setup batch.world msgSender setup.punkGateway msgValue
    batch.allRepayDebtAmount
  pure (w, batch.results)

def buyItNowETH (msgValue punkIndex : Nat) (onBehalfOf : Address) : Except Revert World := do
  checkValidCallerAndOnBehalfOf w.punkWhitelist msgSender onBehalfOf
  let w ← payWETHGateway setup w msgValue
  WETHGateway.buyItNowETH setup w setup.punkGateway msgValue setup.punkAsset punkIndex onBehalfOf

def redeemETH (msgValue punkIndex amount buyItNowFine : Nat) : Except Revert (World × Nat) := do
  require (getCollateralLoanId w.state setup.punkAsset punkIndex ≠ 0)
    (.message "PunkGateway: no loan with such punkIndex")
  let w ← payWETHGateway setup w msgValue
  let r ← WETHGateway.redeemETH setup w setup.punkGateway msgValue setup.punkAsset punkIndex amount
    buyItNowFine
  let w ← WETHGateway.refundETH setup r.1 msgSender setup.punkGateway msgValue r.2
  pure (w, r.2)

def liquidateETH (msgValue punkIndex : Nat) : Except Revert (World × Nat) := do
  let loanId := getCollateralLoanId w.state setup.punkAsset punkIndex
  require (loanId ≠ 0) (.message "PunkGateway: no loan with such punkIndex")
  let loan := getLoan w.state loanId
  require (loan.buyItNowBuyerAddress = .account msgSender)
    (.message "PunkGateway: caller is not buyItNowBuyer")
  let w ← payWETHGateway setup w msgValue
  let r ← WETHGateway.liquidateETH setup w setup.punkGateway msgValue setup.punkAsset punkIndex
  let w ← withdrawPunk setup r.1 msgSender punkIndex loan.buyItNowBuyerAddress
  let w ← WETHGateway.refundETH setup w msgSender setup.punkGateway msgValue r.2
  pure (w, r.2)

end Calls

end PunkGateway

end Confetti
