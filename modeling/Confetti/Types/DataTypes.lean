import Confetti.Types.Errors

/-! The records of `DataTypes`. -/
namespace Confetti

/-- Reserve parameters packed in one word: ltv, liquidation threshold, bonus,
decimals, flags and reserve factor. -/
structure ReserveConfigurationMap where
  data : BitVec 256
  deriving DecidableEq, Repr

structure NftConfigurationMap where
  data : BitVec 256
  deriving DecidableEq, Repr

structure ReserveData where
  configuration : ReserveConfigurationMap
  liquidityIndex : Nat
  variableBorrowIndex : Nat
  currentLiquidityRate : Nat
  currentVariableBorrowRate : Nat
  lastUpdateTimestamp : Nat
  cTokenAddress : Address
  debtTokenAddress : Address
  interestRateAddress : Address
  id : Nat
  deriving DecidableEq, Repr

def ReserveData.empty : ReserveData where
  configuration := ⟨0⟩
  liquidityIndex := 0
  variableBorrowIndex := 0
  currentLiquidityRate := 0
  currentVariableBorrowRate := 0
  lastUpdateTimestamp := 0
  cTokenAddress := .zero
  debtTokenAddress := .zero
  interestRateAddress := .zero
  id := 0

structure NftData where
  configuration : NftConfigurationMap
  cNFTAddress : Address
  id : Nat
  deriving DecidableEq, Repr

def NftData.empty : NftData := ⟨⟨0⟩, .zero, 0⟩

inductive LoanState
  | None
  | Created
  | Active
  | BuyItNow
  | Repaid
  | Defaulted
  deriving DecidableEq, Repr

/-- The loan still holds an NFT and owes its debt. -/
def LoanState.isLive : LoanState → Bool
  | .Active | .BuyItNow => true
  | _ => false

structure LoanData where
  loanId : Nat
  state : LoanState
  borrower : Address
  nftAsset : Address
  nftTokenId : Nat
  reserveAsset : Address
  scaledAmount : Nat
  buyItNowStartTimestamp : Nat
  buyItNowBuyerAddress : Address
  buyItNowPrice : Nat
  buyItNowBorrowAmount : Nat
  deriving DecidableEq, Repr

def LoanData.empty : LoanData where
  loanId := 0
  state := .None
  borrower := .zero
  nftAsset := .zero
  nftTokenId := 0
  reserveAsset := .zero
  scaledAmount := 0
  buyItNowStartTimestamp := 0
  buyItNowBuyerAddress := .zero
  buyItNowPrice := 0
  buyItNowBorrowAmount := 0

structure ExecuteDepositParams where
  initiator : Address
  asset : Address
  amount : Nat
  onBehalfOf : Address
  deriving DecidableEq, Repr

structure ExecuteWithdrawParams where
  initiator : Address
  asset : Address
  amount : Nat
  recipient : Address
  deriving DecidableEq, Repr

structure ExecuteBorrowParams where
  initiator : Address
  asset : Address
  amount : Nat
  nftAsset : Address
  nftTokenId : Nat
  onBehalfOf : Address
  deriving DecidableEq, Repr

structure ExecuteBatchBorrowParams where
  initiator : Address
  assets : List Address
  amounts : List Nat
  nftAssets : List Address
  nftTokenIds : List Nat
  onBehalfOf : Address
  deriving DecidableEq, Repr

structure ExecuteRepayParams where
  initiator : Address
  nftAsset : Address
  nftTokenId : Nat
  amount : Nat
  deriving DecidableEq, Repr

structure ExecuteBatchRepayParams where
  initiator : Address
  nftAssets : List Address
  nftTokenIds : List Nat
  amounts : List Nat
  deriving DecidableEq, Repr

structure ExecuteBuyItNowParams where
  initiator : Address
  nftAsset : Address
  nftTokenId : Nat
  buyItNowPrice : Nat
  onBehalfOf : Address
  deriving DecidableEq, Repr

structure ExecuteRedeemParams where
  initiator : Address
  nftAsset : Address
  nftTokenId : Nat
  amount : Nat
  buyItNowFine : Nat
  deriving DecidableEq, Repr

structure ExecuteLiquidateParams where
  initiator : Address
  nftAsset : Address
  nftTokenId : Nat
  amount : Nat
  deriving DecidableEq, Repr

end Confetti
