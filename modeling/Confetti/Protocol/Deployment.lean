import Confetti.Protocol.System

/-! A world the protocol can be deployed in, and the calls that open a market there. -/
namespace Confetti
open TransitionSystem

def State.fresh (timestamp reservePrice nftPrice : Nat) (accounts : Nat → AccountKind) :
    State where
  timestamp
  pool := .deployed
  loanStore := .deployed
  cTokens := fun _ => .empty
  debtTokens := fun _ => .empty
  interestRates := fun _ => none
  reserveOracle := fun _ => .ok reservePrice
  nftOracle := fun _ => .ok nftPrice
  erc20 := fun _ => .empty
  transfers := []
  erc721 := fun _ => .empty
  cNFTs := fun _ => .empty
  cNFTProxys := fun _ => .zero
  accounts

theorem State.fresh_genesis {timestamp : Nat} (h : 0 < timestamp) (reservePrice nftPrice : Nat)
    (accounts : Nat → AccountKind) :
    Genesis (State.fresh timestamp reservePrice nftPrice accounts) :=
  ⟨rfl, rfl, rfl, rfl, rfl, rfl, rfl, h, fun _ _ _ _ => rfl, fun _ _ _ _ => rfl⟩

/-- One reserve, one collection, and the parameters the admin gives them. -/
structure Market where
  asset : Address
  decimals : Nat
  rate : Nat
  optimalUtilizationRate : Nat
  baseVariableBorrowRate : Nat
  variableRateSlope1 : Nat
  variableRateSlope2 : Nat
  reserveFactor : Nat
  treasury : Address
  nftAsset : Address
  ltv : Nat
  liquidationThreshold : Nat
  liquidationBonus : Nat
  redeemDuration : Nat
  buyItNowDuration : Nat
  redeemFine : Nat
  redeemThreshold : Nat

def Market.opening (m : Market) : List Operation :=
  [.world (.deployInterestRate m.rate m.optimalUtilizationRate m.baseVariableBorrowRate
      m.variableRateSlope1 m.variableRateSlope2),
    .admin (.batchInitReserve [⟨m.decimals, .account m.rate, m.asset, m.treasury⟩]),
    .admin (.setBorrowingFlagOnReserve [m.asset] true),
    .admin (.setReserveFactor [m.asset] m.reserveFactor),
    .user (.createCNFT m.nftAsset),
    .admin (.batchInitNft [m.nftAsset]),
    .admin (.configureNftAsCollateral [m.nftAsset] m.ltv m.liquidationThreshold
      m.liquidationBonus),
    .admin (.configureNftAsBuyItNow [m.nftAsset] m.redeemDuration m.buyItNowDuration
      m.redeemFine),
    .admin (.setNftRedeemThreshold [m.nftAsset] m.redeemThreshold)]

/-- An account with an amount of the reserve that the pool may spend. -/
def Market.funding (m : Market) (n amount : Nat) : List Operation :=
  [.token (.mint m.asset (.account n) amount), .token (.approve n m.asset .lendPool amount)]

/-- An account with an NFT of the collection that the pool may move. -/
def Market.minting (m : Market) (n tokenId : Nat) : List Operation :=
  [.token (.mintNFT m.nftAsset (.account n) tokenId),
    .token (.setApprovalForAll n m.nftAsset .lendPool true)]

theorem fresh_reachable {timestamp : Nat} (h : 0 < timestamp) (reservePrice nftPrice : Nat)
    (accounts : Nat → AccountKind) (calls : List Operation) :
    Reachable operations
      (replayed operations (State.fresh timestamp reservePrice nftPrice accounts) calls) := by
  apply replayed_reachable
  exact .initial (State.fresh_genesis h reservePrice nftPrice accounts)

/-! ### A small market -/

/-- Accounts below 100 have no code. -/
def sampleWorld : State :=
  .fresh 1000000 (10 ^ 18) (100 * 10 ^ 18)
    fun n => if 100 ≤ n then .contract true else .externallyOwned

def sampleMarket : Market where
  asset := .account 100
  decimals := 18
  rate := 300
  optimalUtilizationRate := 5 * 10 ^ 26
  baseVariableBorrowRate := 10 ^ 26
  variableRateSlope1 := 10 ^ 26
  variableRateSlope2 := 10 ^ 27
  reserveFactor := 1000
  treasury := .account 9
  nftAsset := .account 200
  ltv := 4000
  liquidationThreshold := 6000
  liquidationBonus := 500
  redeemDuration := 1
  buyItNowDuration := 2
  redeemFine := 500
  redeemThreshold := 5000

/-- Account 1 lends, account 2 borrows an amount against its NFT 7. -/
def Market.lending (m : Market) (amount : Nat) : List Operation :=
  m.opening ++ m.funding 1 (10 ^ 24) ++ m.funding 2 (10 ^ 24) ++ m.funding 3 (10 ^ 24) ++
    m.minting 2 7 ++
    [.user (.deposit 1 m.asset (1000 * 10 ^ 18) (.account 1)),
      .user (.borrow 2 m.asset amount m.nftAsset 7 (.account 2))]

def sampleLending : List Operation := sampleMarket.lending (40 * 10 ^ 18)

def sampleLent : State := replayed operations sampleWorld sampleLending

theorem sampleLent_reachable : Reachable operations sampleLent :=
  fresh_reachable (by decide) _ _ _ _

def samplePriced (nftPrice : Nat) : State :=
  replayed operations sampleWorld
    (sampleLending ++ [.world (.nftPrice sampleMarket.nftAsset (.ok nftPrice))])

theorem samplePriced_reachable (nftPrice : Nat) : Reachable operations (samplePriced nftPrice) :=
  fresh_reachable (by decide) _ _ _ _

/-- The NFT loses half of its price, and account 3 offers that price for it. -/
def sampleOffer : List Operation :=
  [.world (.tick 86400), .world (.nftPrice sampleMarket.nftAsset (.ok (50 * 10 ^ 18))),
    .user (.buyItNow 3 sampleMarket.nftAsset 7 (50 * 10 ^ 18) (.account 3))]

def sampleOnSale : State := replayed operations sampleWorld (sampleLending ++ sampleOffer)

theorem sampleOnSale_reachable : Reachable operations sampleOnSale :=
  fresh_reachable (by decide) _ _ _ _

def sampleOutbid : Operation :=
  .user (.buyItNow 1 sampleMarket.nftAsset 7 (60 * 10 ^ 18) (.account 1))

end Confetti
