import Confetti.Logic.ReserveLogic
import Confetti.Logic.ValidationLogic

/-! `BorrowLogic`: opening, topping up and repaying loans, one at a time or in a
batch that stops at the first item that reverts. -/
namespace Confetti
open Outcome

namespace BorrowLogic
open ReserveLogic LendPoolLoan

def openLoan (s : State) (params : ExecuteBorrowParams) : Except Revert State := do
  let s ← s.safeTransferNFT params.nftAsset .lendPool params.initiator .lendPool params.nftTokenId
  createLoan s params.onBehalfOf params.nftAsset params.nftTokenId
    (s.pool.nfts params.nftAsset).cNFTAddress params.asset params.amount
    (s.pool.reserves params.asset).variableBorrowIndex

/-- `_borrow` -/
def borrow (s : State) (params : ExecuteBorrowParams) : Except Revert State := do
  require (params.onBehalfOf ≠ .zero) (.error .VL_INVALID_ONBEHALFOF_ADDRESS)
  -- the state is updated before the borrow amount is read
  let s ← updateState s params.asset
  let loanId := getCollateralLoanId s params.nftAsset params.nftTokenId
  ValidationLogic.validateBorrow s params.onBehalfOf params.asset params.amount params.nftAsset
    loanId
  let s ← (if loanId = 0 then openLoan s params
    else updateLoan s loanId params.amount 0 (s.pool.reserves params.asset).variableBorrowIndex)
  let reserveData := s.pool.reserves params.asset
  let debtTokens ← DebtToken.mint s.debtTokens reserveData.debtTokenAddress params.initiator
    params.onBehalfOf params.amount reserveData.variableBorrowIndex
  let s := { s with debtTokens }
  let s ← updateInterestRates s params.asset reserveData.cTokenAddress 0 params.amount
  CToken.transferUnderlyingTo s reserveData.cTokenAddress params.initiator params.amount

def executeBorrow (s : State) (params : ExecuteBorrowParams) : Except Revert State :=
  borrow s params

def borrowItems (params : ExecuteBatchBorrowParams) : List ExecuteBorrowParams :=
  List.zipWith (fun (asset, amount) (nftAsset, nftTokenId) =>
      { initiator := params.initiator, asset, amount, nftAsset, nftTokenId,
        onBehalfOf := params.onBehalfOf })
    (params.assets.zip params.amounts) (params.nftAssets.zip params.nftTokenIds)

def executeBatchBorrow (s : State) (params : ExecuteBatchBorrowParams) : Except Revert State := do
  require (params.nftAssets.length = params.assets.length) (.message "inconsistent assets length")
  require (params.nftAssets.length = params.amounts.length)
    (.message "inconsistent amounts length")
  require (params.nftAssets.length = params.nftTokenIds.length)
    (.message "inconsistent tokenIds length")
  (borrowItems params).foldlM borrow s

/-- `_repay`; returns the amount repaid and whether it was all of the debt. -/
def repay (s : State) (params : ExecuteRepayParams) : Except Revert (State × Nat × Bool) := do
  let loanId := getCollateralLoanId s params.nftAsset params.nftTokenId
  require (loanId ≠ 0) (.error .LP_NFT_IS_NOT_USED_AS_COLLATERAL)
  let loanData := getLoan s loanId
  -- the state is updated before the borrow amount is read
  let s ← updateState s loanData.reserveAsset
  let borrowed ← getLoanReserveBorrowAmount s loanId
  let reserveData := s.pool.reserves loanData.reserveAsset
  let nftData := s.pool.nfts loanData.nftAsset
  ValidationLogic.validateRepay reserveData nftData loanData params.amount borrowed.2
  let isUpdate := decide (params.amount < borrowed.2)
  let repayAmount := if isUpdate then params.amount else borrowed.2
  let s ← (if isUpdate then
      updateLoan s loanId 0 repayAmount reserveData.variableBorrowIndex
    else repayLoan s loanId nftData.cNFTAddress)
  let debtTokens ← DebtToken.burn s.debtTokens reserveData.debtTokenAddress loanData.borrower
    repayAmount reserveData.variableBorrowIndex
  let s := { s with debtTokens }
  let s ← updateInterestRates s loanData.reserveAsset reserveData.cTokenAddress repayAmount 0
  let s ← s.safeTransferFrom loanData.reserveAsset .lendPool params.initiator
    reserveData.cTokenAddress repayAmount
  let s ← (if !isUpdate then
      s.safeTransferNFT loanData.nftAsset .lendPool .lendPool loanData.borrower params.nftTokenId
    else pure s)
  pure (s, repayAmount, !isUpdate)

def executeRepay (s : State) (params : ExecuteRepayParams) : Except Revert (State × Nat × Bool) :=
  repay s params

def repayItems (params : ExecuteBatchRepayParams) : List ExecuteRepayParams :=
  List.zipWith (fun (nftAsset, nftTokenId) amount =>
      { initiator := params.initiator, nftAsset, nftTokenId, amount })
    (params.nftAssets.zip params.nftTokenIds) params.amounts

def repayNext (acc : State × List (Nat × Bool)) (item : ExecuteRepayParams) :
    Except Revert (State × List (Nat × Bool)) := do
  let r ← repay acc.1 item
  pure (r.1, acc.2 ++ [r.2])

def executeBatchRepay (s : State) (params : ExecuteBatchRepayParams) :
    Except Revert (State × List (Nat × Bool)) := do
  require (params.nftAssets.length = params.amounts.length)
    (.message "inconsistent amounts length")
  require (params.nftAssets.length = params.nftTokenIds.length)
    (.message "inconsistent tokenIds length")
  (repayItems params).foldlM repayNext (s, [])

end BorrowLogic

end Confetti
