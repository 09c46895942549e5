import Confetti.Library.TransitionSystem
import Confetti.Protocol.LendPoolConfigurator

/-! The protocol as a transition system. An operation is one call of a user, an
administrator or the outside world; a transaction is an operation or a batch. -/
namespace Confetti
open Outcome TransitionSystem

/-- Calls of users. The caller is an account of its own, never a protocol contract;
a token of the protocol is named by the asset it was deployed for. -/
inductive UserCall
  | deposit (caller : Nat) (asset : Address) (amount : Nat) (onBehalfOf : Address)
  | withdraw (caller : Nat) (asset : Address) (amount : Nat) (recipient : Address)
  | borrow (caller : Nat) (asset : Address) (amount : Nat) (nftAsset : Address)
      (nftTokenId : Nat) (onBehalfOf : Address)
  | repay (caller : Nat) (nftAsset : Address) (nftTokenId amount : Nat)
  | buyItNow (caller : Nat) (nftAsset : Address) (nftTokenId buyItNowPrice : Nat)
      (onBehalfOf : Address)
  | redeem (caller : Nat) (nftAsset : Address) (nftTokenId amount buyItNowFine : Nat)
  | liquidate (caller : Nat) (nftAsset : Address) (nftTokenId amount : Nat)
  | transferCToken (caller : Nat) (asset recipient : Address) (amount : Nat)
  | transferCTokenFrom (caller : Nat) (asset sender recipient : Address) (amount : Nat)
  | approveCToken (caller : Nat) (asset spender : Address) (amount : Nat)
  | approveDelegation (caller : Nat) (asset delegatee : Address) (amount : Nat)
  | createCNFT (nftAsset : Address)
  deriving DecidableEq

/-- Calls to third-party tokens and to cNFTs outside of the pool. -/
inductive TokenCall
  | transfer (caller : Nat) (token recipient : Address) (amount : Nat)
  | transferFrom (caller : Nat) (token sender recipient : Address) (amount : Nat)
  | approve (caller : Nat) (token spender : Address) (amount : Nat)
  | mint (token recipient : Address) (amount : Nat)
  | burn (caller : Nat) (token : Address) (amount : Nat)
  | transferNFT (caller : Nat) (nftAsset sender recipient : Address) (tokenId : Nat)
  | safeTransferNFT (caller : Nat) (nftAsset sender recipient : Address) (tokenId : Nat)
  | approveNFT (caller : Nat) (nftAsset spender : Address) (tokenId : Nat)
  | setApprovalForAll (caller : Nat) (nftAsset operator : Address) (approved : Bool)
  | mintNFT (nftAsset recipient : Address) (tokenId : Nat)
  | burnNFT (caller : Nat) (nftAsset : Address) (tokenId : Nat)
  | mintCNFT (caller : Nat) (nftAsset recipient : Address) (tokenId : Nat)
  | burnCNFT (caller : Nat) (nftAsset : Address) (tokenId : Nat)
  deriving DecidableEq

/-- Calls of the pool admin and the emergency admin. -/
inductive AdminCall
  | batchInitReserve (input : List InitReserveInput)
  | batchInitNft (input : List Address)
  | setBorrowingFlagOnReserve (assets : List Address) (flag : Bool)
  | setActiveFlagOnReserve (assets : List Address) (flag : Bool)
  | setFreezeFlagOnReserve (assets : List Address) (flag : Bool)
  | setReserveFactor (assets : List Address) (reserveFactor : Nat)
  | setReserveInterestRateAddress (assets : List Address) (rateAddress : Address)
  | batchConfigReserve (inputs : List ConfigReserveInput)
  | setActiveFlagOnNft (assets : List Address) (flag : Bool)
  | setFreezeFlagOnNft (assets : List Address) (flag : Bool)
  | configureNftAsCollateral (assets : List Address)
      (ltv liquidationThreshold liquidationBonus : Nat)
  | configureNftAsBuyItNow (assets : List Address)
      (redeemDuration buyItNowDuration redeemFine : Nat)
  | setNftRedeemThreshold (assets : List Address) (redeemThreshold : Nat)
  | setNftMinBuyItNowFine (assets : List Address) (minBuyItNowFine : Nat)
  | batchConfigNft (inputs : List ConfigNftInput)
  | setMaxNumberOfReserves (newVal : Nat)
  | setMaxNumberOfNfts (newVal : Nat)
  | setPoolPause (val : Bool)
  deriving DecidableEq

inductive WorldEvent
  | tick (seconds : Nat)
  | reservePrice (asset : Address) (answer : Except String Nat)
  | nftPrice (nftAsset : Address) (answer : Except String Nat)
  | account (n : Nat) (kind : AccountKind)
  | deployInterestRate (n optimalUtilizationRate baseVariableBorrowRate variableRateSlope1
      variableRateSlope2 : Nat)

inductive Operation
  | user (call : UserCall)
  | token (call : TokenCall)
  | admin (call : AdminCall)
  | world (event : WorldEvent)

inductive Transaction
  | single (operation : Operation)
  | batchBorrow (caller : Nat) (assets : List Address) (amounts : List Nat)
      (nftAssets : List Address) (nftTokenIds : List Nat) (onBehalfOf : Address)
  | batchRepay (caller : Nat) (nftAssets : List Address) (nftTokenIds amounts : List Nat)

def UserCall.run (s : State) : UserCall → Except Revert State
  | .deposit caller asset amount onBehalfOf =>
    LendPool.deposit s (.account caller) asset amount onBehalfOf
  | .withdraw caller asset amount recipient =>
    Prod.fst <$> LendPool.withdraw s (.account caller) asset amount recipient
  | .borrow caller asset amount nftAsset nftTokenId onBehalfOf =>
    LendPool.borrow s (.account caller) asset amount nftAsset nftTokenId onBehalfOf
  | .repay caller nftAsset nftTokenId amount =>
    Prod.fst <$> LendPool.repay s (.account caller) nftAsset nftTokenId amount
  | .buyItNow caller nftAsset nftTokenId buyItNowPrice onBehalfOf =>
    LendPool.buyItNow s (.account caller) nftAsset nftTokenId buyItNowPrice onBehalfOf
  | .redeem caller nftAsset nftTokenId amount buyItNowFine =>
    Prod.fst <$> LendPool.redeem s (.account caller) nftAsset nftTokenId amount buyItNowFine
  | .liquidate caller nftAsset nftTokenId amount =>
    Prod.fst <$> LendPool.liquidate s (.account caller) nftAsset nftTokenId amount
  | .transferCToken caller asset recipient amount =>
    CToken.transfer s (s.pool.reserves asset).cTokenAddress (.account caller) recipient amount
  | .transferCTokenFrom caller asset sender recipient amount =>
    CToken.transferFrom s (s.pool.reserves asset).cTokenAddress (.account caller) sender recipient
      amount
  | .approveCToken caller asset spender amount =>
    CToken.approve s (s.pool.reserves asset).cTokenAddress (.account caller) spender amount
  | .approveDelegation caller asset delegatee amount => do
    let debtTokens ← DebtToken.approveDelegation s.debtTokens
      (s.pool.reserves asset).debtTokenAddress (.account caller) delegatee amount
    pure { s with debtTokens }
  | .createCNFT nftAsset => CNFTRegistry.createCNFT s nftAsset

def State.withERC20 (s : State) (token : Address) (ledger : ERC20) : State :=
  { s with erc20 := Function.update s.erc20 token ledger }

def State.withERC721 (s : State) (nftAsset : Address) (nft : ERC721) : State :=
  { s with erc721 := Function.update s.erc721 nftAsset nft }

def TokenCall.run (s : State) : TokenCall → Except Revert State
  | .transfer caller token recipient amount =>
    s.safeTransfer token (.account caller) recipient amount
  | .transferFrom caller token sender recipient amount =>
    s.safeTransferFrom token (.account caller) sender recipient amount
  | .approve caller token spender amount =>
    s.withERC20 token <$> ERC20.approve token (s.erc20 token) (.account caller) spender amount
  | .mint token recipient amount =>
    s.withERC20 token <$> ERC20.mint token (s.erc20 token) recipient amount
  | .burn caller token amount =>
    s.withERC20 token <$> ERC20.burn token (s.erc20 token) (.account caller) amount
  | .transferNFT caller nftAsset sender recipient tokenId =>
    s.withERC721 nftAsset <$>
      (s.erc721 nftAsset).transferFrom (.account caller) sender recipient tokenId
  | .safeTransferNFT caller nftAsset sender recipient tokenId =>
    s.safeTransferNFT nftAsset (.account caller) sender recipient tokenId
  | .approveNFT caller nftAsset spender tokenId =>
    s.withERC721 nftAsset <$> (s.erc721 nftAsset).approve (.account caller) spender tokenId
  | .setApprovalForAll caller nftAsset operator approved =>
    s.withERC721 nftAsset <$>
      (s.erc721 nftAsset).setApprovalForAll (.account caller) operator approved
  | .mintNFT nftAsset recipient tokenId =>
    s.withERC721 nftAsset <$> (s.erc721 nftAsset).mint recipient tokenId
  | .burnNFT caller nftAsset tokenId =>
    s.withERC721 nftAsset <$> (s.erc721 nftAsset).burn (.account caller) tokenId
  | .mintCNFT caller nftAsset recipient tokenId =>
    s.mintCNFT (s.cNFTProxys nftAsset) (.account caller) recipient tokenId
  | .burnCNFT caller nftAsset tokenId =>
    s.burnCNFT (s.cNFTProxys nftAsset) (.account caller) tokenId

/-- Only third-party contracts are listed as assets. -/
def AdminCall.run (s : State) : AdminCall → Except Revert State
  | .batchInitReserve input => do
    require (∀ i ∈ input, i.underlyingAsset.isExternal = true) (.message "asset of the protocol")
    LendPoolConfigurator.batchInitReserve s input
  | .batchInitNft input => do
    require (∀ asset ∈ input, asset.isExternal = true) (.message "asset of the protocol")
    LendPoolConfigurator.batchInitNft s input
  | .setBorrowingFlagOnReserve assets flag =>
    LendPoolConfigurator.setBorrowingFlagOnReserve s assets flag
  | .setActiveFlagOnReserve assets flag =>
    LendPoolConfigurator.setActiveFlagOnReserve s assets flag
  | .setFreezeFlagOnReserve assets flag =>
    LendPoolConfigurator.setFreezeFlagOnReserve s assets flag
  | .setReserveFactor assets reserveFactor =>
    LendPoolConfigurator.setReserveFactor s assets reserveFactor
  | .setReserveInterestRateAddress assets rateAddress =>
    pure (LendPoolConfigurator.setReserveInterestRateAddress s assets rateAddress)
  | .batchConfigReserve inputs => LendPoolConfigurator.batchConfigReserve s inputs
  | .setActiveFlagOnNft assets flag => LendPoolConfigurator.setActiveFlagOnNft s assets flag
  | .setFreezeFlagOnNft assets flag => LendPoolConfigurator.setFreezeFlagOnNft s assets flag
  | .configureNftAsCollateral assets ltv liquidationThreshold liquidationBonus =>
    LendPoolConfigurator.configureNftAsCollateral s assets ltv liquidationThreshold
      liquidationBonus
  | .configureNftAsBuyItNow assets redeemDuration buyItNowDuration redeemFine =>
    LendPoolConfigurator.configureNftAsBuyItNow s assets redeemDuration buyItNowDuration
      redeemFine
  | .setNftRedeemThreshold assets redeemThreshold =>
    LendPoolConfigurator.setNftRedeemThreshold s assets redeemThreshold
  | .setNftMinBuyItNowFine assets minBuyItNowFine =>
    LendPoolConfigurator.setNftMinBuyItNowFine s assets minBuyItNowFine
  | .batchConfigNft inputs => LendPoolConfigurator.batchConfigNft s inputs
  | .setMaxNumberOfReserves newVal => LendPoolConfigurator.setMaxNumberOfReserves s newVal
  | .setMaxNumberOfNfts newVal => LendPoolConfigurator.setMaxNumberOfNfts s newVal
  | .setPoolPause val => pure (LendPoolConfigurator.setPoolPause s val)

/-- Time only moves forward; interest rate contracts keep their code. -/
def WorldEvent.run (s : State) : WorldEvent → Except Revert State
  | .tick seconds => pure { s with timestamp := s.timestamp + seconds }
  | .reservePrice asset answer =>
    pure { s with reserveOracle := Function.update s.reserveOracle asset answer }
  | .nftPrice nftAsset answer =>
    pure { s with nftOracle := Function.update s.nftOracle nftAsset answer }
  | .account n kind => pure { s with accounts := Function.update s.accounts n kind }
  | .deployInterestRate n optimalUtilizationRate baseVariableBorrowRate variableRateSlope1
      variableRateSlope2 => do
    let interestRate ← InterestRate.deploy optimalUtilizationRate baseVariableBorrowRate
      variableRateSlope1 variableRateSlope2
    require ((s.interestRates (.account n)).isNone = true) (.message "address has code")
    pure { s with
      interestRates := Function.update s.interestRates (.account n) (some interestRate) }

def Operation.run (s : State) : Operation → Except Revert State
  | .user call => call.run s
  | .token call => call.run s
  | .admin call => call.run s
  | .world event => event.run s

def Transaction.run (s : State) : Transaction → Except Revert State
  | .single operation => operation.run s
  | .batchBorrow caller assets amounts nftAssets nftTokenIds onBehalfOf =>
    LendPool.batchBorrow s (.account caller) assets amounts nftAssets nftTokenIds onBehalfOf
  | .batchRepay caller nftAssets nftTokenIds amounts =>
    Prod.fst <$> LendPool.batchRepay s (.account caller) nftAssets nftTokenIds amounts

def LendPoolStorage.deployed : LendPoolStorage where
  reserves := fun _ => .empty
  nfts := fun _ => .empty
  reservesList := fun _ => .zero
  reservesCount := 0
  nftsList := fun _ => .zero
  nftsCount := 0
  paused := false
  maxNumberOfReserves := 32
  maxNumberOfNfts := 256

/-- Loan ids start at one. -/
def LoanStore.deployed : LoanStore where
  loanIdTracker := 1
  loans := fun _ => .empty
  nftToLoanIds := fun _ _ => 0
  nftTotalCollateral := fun _ => 0
  userNftCollateral := fun _ _ => 0

/-- The protocol's own storage is as deployed, and its contracts have approved
nobody. Everything else about the world is arbitrary. -/
structure Genesis (s : State) : Prop where
  pool : s.pool = .deployed
  loanStore : s.loanStore = .deployed
  cTokens : s.cTokens = fun _ => .empty
  debtTokens : s.debtTokens = fun _ => .empty
  cNFTs : s.cNFTs = fun _ => .empty
  cNFTProxys : s.cNFTProxys = fun _ => .zero
  transfers : s.transfers = []
  timestamp : 0 < s.timestamp
  allowances : ∀ token owner spender, owner.isExternal = false →
    (s.erc20 token).allowances owner spender = 0
  operators : ∀ nftAsset owner operator, owner.isExternal = false →
    (s.erc721 nftAsset).operatorApprovals owner operator = false

def operations : System State Operation Revert := ⟨Genesis, Operation.run⟩

def transactions : System State Transaction Revert := ⟨Genesis, Transaction.run⟩

end Confetti
