import Confetti.Logic.ReserveLogic
import Confetti.Logic.ValidationLogic

/-! `LiquidateLogic`: the sale of a loan's NFT. An offer locks its price in the pool;
the sale ends by a redemption, which refunds the buyer, or by a liquidation, which
pays the debt from the locked price. -/
namespace Confetti
open Outcome

/-- `1 days` -/
def DAY : Nat := 86400

namespace LiquidateLogic
open ReserveLogic LendPoolLoan GenericLogic

/-- The start of a sale plus a number of days of the collection's configuration. -/
def endTimestamp (buyItNowStartTimestamp days : Nat) : Except Revert Nat := do
  let duration ← Uint256.mul days DAY
  Uint256.add buyItNowStartTimestamp duration

def checkFirstOffer (buyItNowPrice borrowAmount thresholdPrice liquidatePrice : Nat) :
    Except Revert Unit := do
  -- loan's accumulated debt must exceed threshold (heath factor below 1.0)
  require (borrowAmount > thresholdPrice) (.error .LP_BORROW_NOT_EXCEED_LIQUIDATION_THRESHOLD)
  require (buyItNowPrice ≥ liquidatePrice)
    (.error .LPL_BUYITNOW_PRICE_LESS_THAN_LIQUIDATION_PRICE)
  require (buyItNowPrice ≥ borrowAmount) (.error .LPL_BUYITNOW_PRICE_LESS_THAN_BORROW)

def checkNextOffer (now : Nat) (loanData : LoanData) (buyItNowDuration buyItNowPrice
    borrowAmount : Nat) : Except Revert Unit := do
  require (buyItNowPrice ≥ borrowAmount) (.error .LPL_BUYITNOW_PRICE_LESS_THAN_BORROW)
  let buyItNowEndTimestamp ← endTimestamp loanData.buyItNowStartTimestamp buyItNowDuration
  require (now ≤ buyItNowEndTimestamp) (.error .LPL_BUYITNOW_DURATION_HAS_END)
  let minBuyItNowDelta ← percentMul borrowAmount TEN_PERCENT
  let highest ← Uint256.add loanData.buyItNowPrice minBuyItNowDelta
  require (buyItNowPrice ≥ highest) (.error .LPL_BUYITNOW_PRICE_LESS_THAN_HIGHEST_PRICE)

def executeBuyItNow (s : State) (params : ExecuteBuyItNowParams) : Except Revert State := do
  require (params.onBehalfOf ≠ .zero) (.error .VL_INVALID_ONBEHALFOF_ADDRESS)
  let loanId := getCollateralLoanId s params.nftAsset params.nftTokenId
  require (loanId ≠ 0) (.error .LP_NFT_IS_NOT_USED_AS_COLLATERAL)
  let loanData := getLoan s loanId
  let nftData := s.pool.nfts loanData.nftAsset
  ValidationLogic.validateBuyItNow (s.pool.reserves loanData.reserveAsset) nftData loanData
    params.buyItNowPrice
  let s ← updateState s loanData.reserveAsset
  let prices ← calculateLoanLiquidatePrice s loanId loanData.reserveAsset loanData.nftAsset
  (if loanData.state = .Active then
      checkFirstOffer params.buyItNowPrice prices.1 prices.2.1 prices.2.2
    else checkNextOffer s.timestamp loanData nftData.configuration.getBuyItNowDuration
      params.buyItNowPrice prices.1)
  let s ← buyItNowLoan s loanId params.onBehalfOf params.buyItNowPrice prices.1
  -- lock buyer price amount to lend pool; the previous buyer's refund is commented out
  let s ← s.safeTransferFrom loanData.reserveAsset .lendPool params.initiator .lendPool
    params.buyItNowPrice
  updateInterestRates s loanData.reserveAsset
    (s.pool.reserves loanData.reserveAsset).cTokenAddress 0 0

def checkRedeem (params : ExecuteRedeemParams) (borrowAmount fine redeemThreshold : Nat) :
    Except Revert Unit := do
  require (fine ≤ params.buyItNowFine) (.error .LPL_INVALID_BUYITNOW_FINE)
  let minRepayAmount ← percentMul borrowAmount redeemThreshold
  require (params.amount ≥ minRepayAmount) (.error .LP_AMOUNT_LESS_THAN_REDEEM_THRESHOLD)
  let maxRepayAmount ← percentMul borrowAmount (PERCENTAGE_FACTOR - TEN_PERCENT)
  require (params.amount ≤ maxRepayAmount) (.error .LP_AMOUNT_GREATER_THAN_MAX_REPAY)

/-- Returns the repaid amount plus the fine. -/
def executeRedeem (s : State) (params : ExecuteRedeemParams) : Except Revert (State × Nat) := do
  let loanId := getCollateralLoanId s params.nftAsset params.nftTokenId
  require (loanId ≠ 0) (.error .LP_NFT_IS_NOT_USED_AS_COLLATERAL)
  let loanData := getLoan s loanId
  let nftData := s.pool.nfts loanData.nftAsset
  ValidationLogic.validateRedeem (s.pool.reserves loanData.reserveAsset) nftData loanData
    params.amount
  let redeemEndTimestamp ← endTimestamp loanData.buyItNowStartTimestamp
    nftData.configuration.getRedeemDuration
  require (s.timestamp ≤ redeemEndTimestamp) (.error .LPL_BUYITNOW_REDEEM_DURATION_HAS_END)
  let s ← updateState s loanData.reserveAsset
  let prices ← calculateLoanLiquidatePrice s loanId loanData.reserveAsset loanData.nftAsset
  let fines ← calculateLoanBuyItNowFine s loanData.reserveAsset loanData.nftAsset loanData
  checkRedeem params prices.1 fines.2 nftData.configuration.getRedeemThreshold
  let reserveData := s.pool.reserves loanData.reserveAsset
  let s ← redeemLoan s loanId params.amount reserveData.variableBorrowIndex
  let debtTokens ← DebtToken.burn s.debtTokens reserveData.debtTokenAddress loanData.borrower
    params.amount reserveData.variableBorrowIndex
  let s := { s with debtTokens }
  let s ← updateInterestRates s loanData.reserveAsset reserveData.cTokenAddress params.amount 0
  let s ← s.safeTransferFrom loanData.reserveAsset .lendPool params.initiator
    reserveData.cTokenAddress params.amount
  let s ← (if loanData.buyItNowBuyerAddress ≠ .zero then do
      -- return the last price to the buyer, then the fine on top
      let s ← s.safeTransfer loanData.reserveAsset .lendPool loanData.buyItNowBuyerAddress
        loanData.buyItNowPrice
      s.safeTransferFrom loanData.reserveAsset .lendPool params.initiator
        loanData.buyItNowBuyerAddress fines.2
    else pure s)
  let paid ← Uint256.add params.amount fines.2
  pure (s, paid)

/-- Returns what the liquidator had to add to the price. -/
def executeLiquidate (s : State) (params : ExecuteLiquidateParams) :
    Except Revert (State × Nat) := do
  let loanId := getCollateralLoanId s params.nftAsset params.nftTokenId
  require (loanId ≠ 0) (.error .LP_NFT_IS_NOT_USED_AS_COLLATERAL)
  let loanData := getLoan s loanId
  let nftData := s.pool.nfts loanData.nftAsset
  ValidationLogic.validateLiquidate (s.pool.reserves loanData.reserveAsset) nftData loanData
  require (s.timestamp > loanData.buyItNowStartTimestamp)
    (.error .LPL_BUYITNOW_DURATION_NOT_START)
  let s ← updateState s loanData.reserveAsset
  let prices ← calculateLoanLiquidatePrice s loanId loanData.reserveAsset loanData.nftAsset
  let borrowAmount := prices.1
  -- what the price leaves open, and what it leaves over
  let extraDebtAmount := borrowAmount - loanData.buyItNowPrice
  require (loanData.buyItNowPrice < borrowAmount → params.amount ≥ extraDebtAmount)
    (.error .LP_AMOUNT_LESS_THAN_EXTRA_DEBT)
  let remainAmount := loanData.buyItNowPrice - borrowAmount
  let reserveData := s.pool.reserves loanData.reserveAsset
  let s ← liquidateLoan s loanId nftData.cNFTAddress borrowAmount
  let debtTokens ← DebtToken.burn s.debtTokens reserveData.debtTokenAddress loanData.borrower
    borrowAmount reserveData.variableBorrowIndex
  let s := { s with debtTokens }
  let s ← updateInterestRates s loanData.reserveAsset reserveData.cTokenAddress borrowAmount 0
  let s ← (if extraDebtAmount > 0 then
      s.safeTransferFrom loanData.reserveAsset .lendPool params.initiator .lendPool extraDebtAmount
    else pure s)
  let s ← s.safeTransfer loanData.reserveAsset .lendPool reserveData.cTokenAddress borrowAmount
  let s ← (if remainAmount > 0 then
      s.safeTransfer loanData.reserveAsset .lendPool loanData.borrower remainAmount
    else pure s)
  let s ← s.safeTransferNFT loanData.nftAsset .lendPool .lendPool loanData.buyItNowBuyerAddress
    params.nftTokenId
  pure (s, extraDebtAmount)

end LiquidateLogic

end Confetti
