import Confetti.Library.KeyList
import Confetti.Library.TransitionSystem
import Confetti.Types.Uint256

/-! The oracle of NFT prices: an admin reports prices, and the average over a window of time
is kept for the readers. -/
namespace Confetti
open Outcome TransitionSystem

structure NFTPriceData where
  roundId : Nat
  price : Nat
  timestamp : Nat
  deriving DecidableEq, Repr

structure NFTPriceFeed where
  registered : Bool
  nftPriceData : List NFTPriceData
  deriving DecidableEq, Repr

def NFTPriceFeed.empty : NFTPriceFeed := ⟨false, []⟩

/-- The storage of the oracle, and the time of the block it is called in. Prices are pushed
behind the earlier ones. -/
structure NFTOracle where
  timestamp : Nat
  owner : Address
  priceFeedAdmin : Address
  nftPriceFeedMap : Address → NFTPriceFeed
  nftPriceFeedKeys : List Address
  maxPriceDeviation : Nat
  maxPriceDeviationWithTime : Nat
  timeIntervalWithPrice : Nat
  minUpdateTime : Nat
  nftPaused : Address → Bool
  twapInterval : Nat
  twapPriceMap : Address → Nat

def DECIMAL_PRECISION : Nat := 10 ^ 18

namespace NFTOracle

variable (o : NFTOracle)

def nftPriceData (nftContract : Address) : List NFTPriceData :=
  (o.nftPriceFeedMap nftContract).nftPriceData

def setFeed (nftContract : Address) (feed : NFTPriceFeed) : NFTOracle :=
  { o with nftPriceFeedMap := Function.update o.nftPriceFeedMap nftContract feed }

def onlyOwner (caller : Address) : Except Revert Unit :=
  require (caller = o.owner) (.message "Ownable: caller is not the owner")

def onlyAdmin (caller : Address) : Except Revert Unit :=
  require (caller = o.priceFeedAdmin) (.message "NFTOracle: !admin")

def whenNotPaused (nftContract : Address) : Except Revert Unit :=
  require (o.nftPaused nftContract = false) (.message "NFTOracle: nft price feed paused")

def isExistedKey (nftContract : Address) : Bool := (o.nftPriceFeedMap nftContract).registered

def requireKeyExisted (key : Address) (existed : Bool) : Except Revert Unit :=
  if existed = true then
    require (o.isExistedKey key = true) (.message "NFTOracle: key not existed")
  else
    require (o.isExistedKey key = false) (.message "NFTOracle: key existed")

def getPriceFeedLength (nftContract : Address) : Nat := (o.nftPriceData nftContract).length

/-- An element of the array in storage; reading behind its end panics. -/
def priceRecord (data : List NFTPriceData) (index : Nat) : Except Revert NFTPriceData :=
  match data[index]? with
  | some record => .ok record
  | none => .error .panic

/-! ### Registration -/

def _addAsset (nftContract : Address) : Except Revert NFTOracle := do
  o.requireKeyExisted nftContract false
  let feed := { o.nftPriceFeedMap nftContract with registered := true }
  pure { o.setFeed nftContract feed with
    nftPriceFeedKeys := o.nftPriceFeedKeys ++ [nftContract] }

def setAssets (caller : Address) (nftContracts : List Address) : Except Revert NFTOracle := do
  o.onlyOwner caller
  nftContracts.foldlM _addAsset o

def addAsset (caller nftContract : Address) : Except Revert NFTOracle := do
  o.onlyOwner caller
  o._addAsset nftContract

def removeAsset (caller nftContract : Address) : Except Revert NFTOracle := do
  o.onlyOwner caller
  o.requireKeyExisted nftContract true
  pure { o.setFeed nftContract .empty with
    nftPriceFeedKeys := KeyList.remove o.nftPriceFeedKeys nftContract }

/-! ### Prices -/

def getLatestTimestamp (nftContract : Address) : Except Revert Nat := do
  require (o.isExistedKey nftContract = true) (.message "NFTOracle: key not existed")
  let len := o.getPriceFeedLength nftContract
  if len = 0 then pure 0
  else do
    let record ← priceRecord (o.nftPriceData nftContract) (len - 1)
    pure record.timestamp

/-- The rounds before `round` are added from the back, down to the start of the window or of
the history. -/
def twapLoop (data : List NFTPriceData) (twapInterval baseTimestamp : Nat) :
    Nat → Nat → Nat → Nat → Except Revert Nat
  | 0, cumulativeTime, _, weightedPrice => Uint256.div weightedPrice cumulativeTime
  | round + 1, cumulativeTime, previousTimestamp, weightedPrice => do
    let record ← priceRecord data round
    let currentTimestamp := record.timestamp
    let price := record.price
    if currentTimestamp ≤ baseTimestamp then do
      let weightedTime ← Uint256.sub previousTimestamp baseTimestamp
      let weighted ← Uint256.mul price weightedTime
      let weightedPrice ← Uint256.add weightedPrice weighted
      Uint256.div weightedPrice twapInterval
    else do
      let timeFraction ← Uint256.sub previousTimestamp currentTimestamp
      let weighted ← Uint256.mul price timeFraction
      let weightedPrice ← Uint256.add weightedPrice weighted
      let cumulativeTime ← Uint256.add cumulativeTime timeFraction
      twapLoop data twapInterval baseTimestamp round cumulativeTime currentTimestamp weightedPrice

def calculateTwapPrice (nftContract : Address) : Except Revert Nat := do
  require (o.isExistedKey nftContract = true) (.message "NFTOracle: key not existed")
  require (o.twapInterval ≠ 0) (.message "NFTOracle: interval can't be 0")
  let data := o.nftPriceData nftContract
  let len := o.getPriceFeedLength nftContract
  require (0 < len) (.message "NFTOracle: Not enough history")
  let round := len - 1
  let record ← priceRecord data round
  let latestTimestamp := record.timestamp
  let baseTimestamp ← Uint256.sub o.timestamp o.twapInterval
  if latestTimestamp < baseTimestamp ∨ round = 0 then pure record.price
  else do
    let cumulativeTime ← Uint256.sub o.timestamp latestTimestamp
    let weightedPrice ← Uint256.mul record.price cumulativeTime
    twapLoop data o.twapInterval baseTimestamp round cumulativeTime latestTimestamp weightedPrice

/-- A new price may deviate from the last one by a share that depends on the time between. -/
def checkValidityOfPrice (nftContract : Address) (price timestamp : Nat) :
    Except Revert Bool := do
  let len := o.getPriceFeedLength nftContract
  if 0 < len then do
    let record ← priceRecord (o.nftPriceData nftContract) (len - 1)
    if price = record.price then pure true
    else do
      let deviation ←
        if record.price < price then Uint256.sub price record.price
        else Uint256.sub record.price price
      let scaled ← Uint256.mul deviation DECIMAL_PRECISION
      let percentDeviation ← Uint256.div scaled record.price
      let timeDeviation ← Uint256.sub timestamp record.timestamp
      if o.maxPriceDeviation < percentDeviation then pure false
      else if timeDeviation < o.minUpdateTime then pure false
      else if o.maxPriceDeviationWithTime < percentDeviation ∧
          timeDeviation < o.timeIntervalWithPrice then pure false
      else pure true
  else pure true

def setAssetData (caller nftContract : Address) (price : Nat) : Except Revert NFTOracle := do
  o.onlyAdmin caller
  o.whenNotPaused nftContract
  o.requireKeyExisted nftContract true
  let timestamp := o.timestamp
  let latestTimestamp ← o.getLatestTimestamp nftContract
  require (latestTimestamp < timestamp) (.message "NFTOracle: incorrect timestamp")
  require (0 < price) (.message "NFTOracle: price can not be 0")
  let dataValidity ← o.checkValidityOfPrice nftContract price timestamp
  require (dataValidity = true) (.message "NFTOracle: invalid price data")
  let len := o.getPriceFeedLength nftContract
  let data : NFTPriceData := ⟨len, price, timestamp⟩
  let feed := o.nftPriceFeedMap nftContract
  let pushed := o.setFeed nftContract { feed with nftPriceData := feed.nftPriceData ++ [data] }
  let twapPrice ← pushed.calculateTwapPrice nftContract
  pure { pushed with twapPriceMap := Function.update o.twapPriceMap nftContract twapPrice }

def getAssetPrice (nftContract : Address) : Except Revert Nat := do
  require (o.isExistedKey nftContract = true) (.message "NFTOracle: key not existed")
  let len := o.getPriceFeedLength nftContract
  require (0 < len) (.message "NFTOracle: no price data")
  let twapPrice := o.twapPriceMap nftContract
  if twapPrice = 0 then do
    let record ← priceRecord (o.nftPriceData nftContract) (len - 1)
    pure record.price
  else pure twapPrice

/-! ### Administration -/

def setPriceFeedAdmin (caller admin : Address) : Except Revert NFTOracle := do
  o.onlyOwner caller
  pure { o with priceFeedAdmin := admin }

def setDataValidityParameters (caller : Address) (maxPriceDeviation maxPriceDeviationWithTime
    timeIntervalWithPrice minUpdateTime : Nat) : Except Revert NFTOracle := do
  o.onlyOwner caller
  pure { o with
    maxPriceDeviation
    maxPriceDeviationWithTime
    timeIntervalWithPrice
    minUpdateTime }

def setPause (caller nftContract : Address) (val : Bool) : Except Revert NFTOracle := do
  o.onlyOwner caller
  pure { o with nftPaused := Function.update o.nftPaused nftContract val }

def setTwapInterval (caller : Address) (twapInterval : Nat) : Except Revert NFTOracle := do
  o.onlyOwner caller
  pure { o with twapInterval }

def transferOwnership (caller newOwner : Address) : Except Revert NFTOracle := do
  o.onlyOwner caller
  require (newOwner ≠ .zero) (.message "Ownable: new owner is the zero address")
  pure { o with owner := newOwner }

def renounceOwnership (caller : Address) : Except Revert NFTOracle := do
  o.onlyOwner caller
  pure { o with owner := .zero }

end NFTOracle

/-! ### The oracle as a transition system -/

inductive NFTOracleCall
  | setPriceFeedAdmin (admin : Address)
  | setAssets (nftContracts : List Address)
  | addAsset (nftContract : Address)
  | removeAsset (nftContract : Address)
  | setAssetData (nftContract : Address) (price : Nat)
  | setDataValidityParameters (maxPriceDeviation maxPriceDeviationWithTime timeIntervalWithPrice
      minUpdateTime : Nat)
  | setPause (nftContract : Address) (val : Bool)
  | setTwapInterval (twapInterval : Nat)
  | transferOwnership (newOwner : Address)
  | renounceOwnership
  deriving DecidableEq

inductive NFTOracleStep
  | call (caller : Address) (action : NFTOracleCall)
  | tick (seconds : Nat)
  deriving DecidableEq

def NFTOracleCall.run (o : NFTOracle) (caller : Address) :
    NFTOracleCall → Except Revert NFTOracle
  | .setPriceFeedAdmin admin => o.setPriceFeedAdmin caller admin
  | .setAssets nftContracts => o.setAssets caller nftContracts
  | .addAsset nftContract => o.addAsset caller nftContract
  | .removeAsset nftContract => o.removeAsset caller nftContract
  | .setAssetData nftContract price => o.setAssetData caller nftContract price
  | .setDataValidityParameters maxPriceDeviation maxPriceDeviationWithTime timeIntervalWithPrice
      minUpdateTime =>
    o.setDataValidityParameters caller maxPriceDeviation maxPriceDeviationWithTime
      timeIntervalWithPrice minUpdateTime
  | .setPause nftContract val => o.setPause caller nftContract val
  | .setTwapInterval twapInterval => o.setTwapInterval caller twapInterval
  | .transferOwnership newOwner => o.transferOwnership caller newOwner
  | .renounceOwnership => o.renounceOwnership caller

def NFTOracleStep.run (o : NFTOracle) : NFTOracleStep → Except Revert NFTOracle
  | .call caller action => action.run o caller
  | .tick seconds => pure { o with timestamp := o.timestamp + seconds }

/-- What `initialize` leaves behind, with the parameters it is given. -/
structure NFTOracle.Deployed (o : NFTOracle) : Prop where
  nftPriceFeedMap : o.nftPriceFeedMap = fun _ => .empty
  nftPriceFeedKeys : o.nftPriceFeedKeys = []
  nftPaused : o.nftPaused = fun _ => false
  twapPriceMap : o.twapPriceMap = fun _ => 0

def nftOracles : System NFTOracle NFTOracleStep Revert := ⟨NFTOracle.Deployed, NFTOracleStep.run⟩

def sampleNFTOracle : NFTOracle where
  timestamp := 1000
  owner := .account 0
  priceFeedAdmin := .account 1
  nftPriceFeedMap := fun _ => .empty
  nftPriceFeedKeys := []
  maxPriceDeviation := 2 * 10 ^ 18
  maxPriceDeviationWithTime := 10 ^ 18
  timeIntervalWithPrice := 30
  minUpdateTime := 10
  nftPaused := fun _ => false
  twapInterval := 45
  twapPriceMap := fun _ => 0

theorem sampleNFTOracle_reachable : Reachable nftOracles sampleNFTOracle :=
  .initial ⟨rfl, rfl, rfl, rfl⟩

end Confetti
