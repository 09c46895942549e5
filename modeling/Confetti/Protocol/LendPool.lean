import Confetti.Logic.SupplyLogic
import Confetti.Logic.BorrowLogic
import Confetti.Logic.LiquidateLogic

/-! `LendPool`: the entry points of users, the views, and the functions only the
configurator may call. A call is atomic, so the reentrancy guard is not modelled. -/
namespace Confetti
open Outcome

namespace LendPool
open GenericLogic LendPoolLoan

def whenNotPaused (s : State) : Except Revert Unit :=
  require (s.pool.paused = false) (.error .LP_IS_PAUSED)

def deposit (s : State) (caller asset : Address) (amount : Nat) (onBehalfOf : Address) :
    Except Revert State := do
  whenNotPaused s
  SupplyLogic.executeDeposit s { initiator := caller, asset, amount, onBehalfOf }

def withdraw (s : State) (caller asset : Address) (amount : Nat) (recipient : Address) :
    Except Revert (State × Nat) := do
  whenNotPaused s
  SupplyLogic.executeWithdraw s { initiator := caller, asset, amount, recipient }

def borrow (s : State) (caller asset : Address) (amount : Nat) (nftAsset : Address)
    (nftTokenId : Nat) (onBehalfOf : Address) : Except Revert State := do
  whenNotPaused s
  BorrowLogic.executeBorrow s
    { initiator := caller, asset, amount, nftAsset, nftTokenId, onBehalfOf }

def batchBorrow (s : State) (caller : Address) (assets : List Address) (amounts : List Nat)
    (nftAssets : List Address) (nftTokenIds : List Nat) (onBehalfOf : Address) :
    Except Revert State := do
  whenNotPaused s
  BorrowLogic.executeBatchBorrow s
    { initiator := caller, assets, amounts, nftAssets, nftTokenIds, onBehalfOf }

def repay (s : State) (caller nftAsset : Address) (nftTokenId amount : Nat) :
    Except Revert (State × Nat × Bool) := do
  whenNotPaused s
  BorrowLogic.executeRepay s { initiator := caller, nftAsset, nftTokenId, amount }

def batchRepay (s : State) (caller : Address) (nftAssets : List Address)
    (nftTokenIds amounts : List Nat) : Except Revert (State × List (Nat × Bool)) := do
  whenNotPaused s
  BorrowLogic.executeBatchRepay s { initiator := caller, nftAssets, nftTokenIds, amounts }

def buyItNow (s : State) (caller nftAsset : Address) (nftTokenId buyItNowPrice : Nat)
    (onBehalfOf : Address) : Except Revert State := do
  whenNotPaused s
  LiquidateLogic.executeBuyItNow s
    { initiator := caller, nftAsset, nftTokenId, buyItNowPrice, onBehalfOf }

def redeem (s : State) (caller nftAsset : Address) (nftTokenId amount buyItNowFine : Nat) :
    Except Revert (State × Nat) := do
  whenNotPaused s
  LiquidateLogic.executeRedeem s
    { initiator := caller, nftAsset, nftTokenId, amount, buyItNowFine }

def liquidate (s : State) (caller nftAsset : Address) (nftTokenId amount : Nat) :
    Except Revert (State × Nat) := do
  whenNotPaused s
  LiquidateLogic.executeLiquidate s { initiator := caller, nftAsset, nftTokenId, amount }

/-! ### Views -/

def getReserveNormalizedIncome (s : State) (asset : Address) : Except Revert Nat :=
  ReserveLogic.getNormalizedIncome (s.pool.reserves asset) s.timestamp

def getReserveNormalizedVariableDebt (s : State) (asset : Address) : Except Revert Nat :=
  ReserveLogic.getNormalizedDebt (s.pool.reserves asset) s.timestamp

def getReservesList (s : State) : List Address :=
  (List.range s.pool.reservesCount).map s.pool.reservesList

def getNftsList (s : State) : List Address :=
  (List.range s.pool.nftsCount).map s.pool.nftsList

structure NftDebtData where
  loanId : Nat
  reserveAsset : Address
  totalCollateral : Nat
  totalDebt : Nat
  availableBorrows : Nat
  healthFactor : Nat
  deriving DecidableEq, Repr

def getNftDebtData (s : State) (nftAsset : Address) (nftTokenId : Nat) :
    Except Revert NftDebtData := do
  let params := (s.pool.nfts nftAsset).configuration.getCollateralParams
  let loanId := getCollateralLoanId s nftAsset nftTokenId
  if loanId = 0 then pure ⟨0, .zero, 0, 0, 0, 0⟩
  else do
    let loan := getLoan s loanId
    let collateral ← calculateNftCollateralData s loan.reserveAsset nftAsset
    let debt ← calculateNftDebtData s loan.reserveAsset loanId
    let availableBorrows ← calculateAvailableBorrows collateral.2 debt.2 params.1
    let healthFactor ← (if loan.state = .Active then
        calculateHealthFactorFromBalances collateral.2 debt.2 params.2.1
      else pure 0)
    pure ⟨loanId, loan.reserveAsset, collateral.2, debt.2, availableBorrows, healthFactor⟩

structure NftBuyItNowData where
  loanId : Nat
  buyItNowBuyerAddress : Address
  buyItNowPrice : Nat
  buyItNowBorrowAmount : Nat
  buyItNowFine : Nat
  deriving DecidableEq, Repr

/-- What is on record about the sale of an NFT, and the fine for redeeming it. -/
def getNftBuyItNowData (s : State) (nftAsset : Address) (nftTokenId : Nat) :
    Except Revert NftBuyItNowData := do
  let loanId := getCollateralLoanId s nftAsset nftTokenId
  if loanId ≠ 0 then do
    let loan := getLoan s loanId
    let fines ← calculateLoanBuyItNowFine s loan.reserveAsset nftAsset loan
    pure ⟨loanId, loan.buyItNowBuyerAddress, loan.buyItNowPrice, loan.buyItNowBorrowAmount,
      fines.2⟩
  else pure ⟨0, .zero, 0, 0, 0⟩

/-- The price a first offer has to reach, and the debt it has to cover. -/
def getNftLiquidatePrice (s : State) (nftAsset : Address) (nftTokenId : Nat) :
    Except Revert (Nat × Nat) := do
  let loanId := getCollateralLoanId s nftAsset nftTokenId
  if loanId = 0 then pure (0, 0)
  else do
    let loanData := getLoan s loanId
    let prices ← calculateLoanLiquidatePrice s loanId loanData.reserveAsset loanData.nftAsset
    pure (if prices.2.2 < prices.1 then prices.1 else prices.2.2, prices.1)

/-! ### Configuration -/

def setPause (s : State) (val : Bool) : State := { s with pool := { s.pool with paused := val } }

def setMaxNumberOfReserves (s : State) (val : Nat) : State :=
  { s with pool := { s.pool with maxNumberOfReserves := val } }

def setMaxNumberOfNfts (s : State) (val : Nat) : State :=
  { s with pool := { s.pool with maxNumberOfNfts := val } }

def setReserveInterestRateAddress (s : State) (asset rateAddress : Address) : State :=
  { s with
    pool := s.pool.setReserve asset { s.pool.reserves asset with
      interestRateAddress := rateAddress } }

def setReserveConfiguration (s : State) (asset : Address)
    (configuration : ReserveConfigurationMap) : State :=
  { s with pool := s.pool.setReserve asset { s.pool.reserves asset with configuration } }

def setNftConfiguration (s : State) (asset : Address) (configuration : NftConfigurationMap) :
    State :=
  { s with pool := s.pool.setNft asset { s.pool.nfts asset with configuration } }

/-- `_addReserveToList` -/
def addReserveToList (pool : LendPoolStorage) (asset : Address) :
    Except Revert LendPoolStorage := do
  let reservesCount := pool.reservesCount
  require (reservesCount < pool.maxNumberOfReserves) (.error .LP_NO_MORE_RESERVES_ALLOWED)
  let reserve := pool.reserves asset
  if reserve.id ≠ 0 ∨ pool.reservesList 0 = asset then pure pool
  else pure { pool.setReserve asset { reserve with id := uint8 reservesCount } with
    reservesList := Function.update pool.reservesList reservesCount asset
    reservesCount := reservesCount + 1 }

/-- `_addNftToList` -/
def addNftToList (pool : LendPoolStorage) (asset : Address) : Except Revert LendPoolStorage := do
  let nftsCount := pool.nftsCount
  require (nftsCount < pool.maxNumberOfNfts) (.error .LP_NO_MORE_NFTS_ALLOWED)
  let nft := pool.nfts asset
  if nft.id ≠ 0 ∨ pool.nftsList 0 = asset then pure pool
  else pure { pool.setNft asset { nft with id := uint8 nftsCount } with
    nftsList := Function.update pool.nftsList nftsCount asset
    nftsCount := nftsCount + 1 }

def initReserve (s : State) (asset cTokenAddress debtTokenAddress interestRateAddress : Address) :
    Except Revert State := do
  require (s.isContract asset = true) (.error .LP_NOT_CONTRACT)
  let reserve ← ReserveLogic.init (s.pool.reserves asset) cTokenAddress debtTokenAddress
    interestRateAddress
  let pool ← addReserveToList (s.pool.setReserve asset reserve) asset
  pure { s with pool }

/-- `NftLogic.init` -/
def initNftData (nft : NftData) (cNFTAddress : Address) : Except Revert NftData := do
  require (nft.cNFTAddress = .zero) (.error .RL_RESERVE_ALREADY_INITIALIZED)
  pure { nft with cNFTAddress }

/-- The pool lets the loan contract move its NFTs, and that one the cNFT. -/
def initNft (s : State) (asset cNFTAddress : Address) : Except Revert State := do
  require (s.isContract asset = true) (.error .LP_NOT_CONTRACT)
  let nft ← initNftData (s.pool.nfts asset) cNFTAddress
  let pool ← addNftToList (s.pool.setNft asset nft) asset
  let collection ← (s.erc721 asset).setApprovalForAll .lendPool .lendPoolLoan true
  let collection ← collection.setApprovalForAll .lendPoolLoan cNFTAddress true
  pure { s with pool, erc721 := Function.update s.erc721 asset collection }

end LendPool

end Confetti
