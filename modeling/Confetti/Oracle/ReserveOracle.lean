import Confetti.Library.KeyList
import Confetti.Library.TransitionSystem
import Confetti.Types.Uint256

/-! The oracle of reserve prices: a price feed of a third party for each reserve. -/
namespace Confetti
open Outcome TransitionSystem

/-- The answer of a price feed to `latestRoundData`. -/
structure RoundData where
  roundId : Nat
  answer : Int
  startedAt : Nat
  updatedAt : Nat
  answeredInRound : Nat
  deriving DecidableEq, Repr

/-- What an address answers when it is called as an `AggregatorV3Interface`; an address
without code reverts. -/
structure AggregatorV3Interface where
  latestRoundData : Except Revert RoundData
  decimals : Except Revert Nat

/-- The storage of the oracle. The zero address stands for a missing feed. -/
structure ReserveOracle where
  owner : Address
  priceFeedMap : Address → Address
  priceFeedKeys : List Address
  weth : Address

def TOKEN_DIGIT : Nat := 10 ^ 18

namespace ReserveOracle

variable (o : ReserveOracle)

def onlyOwner (caller : Address) : Except Revert Unit :=
  require (caller = o.owner) (.message "Ownable: caller is not the owner")

def requireNonEmptyAddress (addr : Address) : Except Revert Unit :=
  require (addr ≠ .zero) (.message "ReserveOracle: empty address")

def _addAggregator (priceFeedKey aggregator : Address) : Except Revert ReserveOracle := do
  requireNonEmptyAddress priceFeedKey
  requireNonEmptyAddress aggregator
  let priceFeedKeys :=
    if o.priceFeedMap priceFeedKey = .zero then o.priceFeedKeys ++ [priceFeedKey]
    else o.priceFeedKeys
  pure { o with
    priceFeedKeys
    priceFeedMap := Function.update o.priceFeedMap priceFeedKey aggregator }

def setAggregators (caller : Address) (priceFeedKeys aggregators : List Address) :
    Except Revert ReserveOracle := do
  o.onlyOwner caller
  require (priceFeedKeys.length = aggregators.length)
    (.message "ReserveOracle: INCONSISTENT_PARAMS_LENGTH")
  (priceFeedKeys.zip aggregators).foldlM (fun o entry => o._addAggregator entry.1 entry.2) o

def addAggregator (caller priceFeedKey aggregator : Address) : Except Revert ReserveOracle := do
  o.onlyOwner caller
  o._addAggregator priceFeedKey aggregator

/-- The loop of `removeAggregator`: the last key is just popped. -/
def withoutKey (priceFeedKeys : List Address) (priceFeedKey : Address) : List Address :=
  match priceFeedKeys.idxOf? priceFeedKey with
  | none => priceFeedKeys
  | some i =>
    if i ≠ priceFeedKeys.length - 1 then KeyList.swapPop priceFeedKeys i
    else priceFeedKeys.dropLast

def removeAggregator (caller priceFeedKey : Address) : Except Revert ReserveOracle := do
  o.onlyOwner caller
  let aggregator := o.priceFeedMap priceFeedKey
  requireNonEmptyAddress aggregator
  pure { o with
    priceFeedMap := Function.update o.priceFeedMap priceFeedKey .zero
    priceFeedKeys := withoutKey o.priceFeedKeys priceFeedKey }

def getAggregator (priceFeedKey : Address) : Address := o.priceFeedMap priceFeedKey

/-- A search through the whole list. -/
def isExistedKey (priceFeedKey : Address) : Bool :=
  o.priceFeedKeys.any fun other => decide (other = priceFeedKey)

/-- Prices are scaled to 18 decimals. -/
def formatDecimals (price decimals : Nat) : Except Revert Nat := do
  let scaled ← Uint256.mul price TOKEN_DIGIT
  let unit ← Uint256.pow 10 decimals
  Uint256.div scaled unit

def getAssetPrice (feeds : Address → AggregatorV3Interface) (priceFeedKey : Address) :
    Except Revert Nat := do
  if priceFeedKey = o.weth then pure (10 ^ 18)
  else do
    require (o.isExistedKey priceFeedKey = true) (.message "ReserveOracle: key not existed")
    let aggregator := o.getAggregator priceFeedKey
    let round ← (feeds aggregator).latestRoundData
    require (0 ≤ round.answer) (.message "ReserveOracle: negative answer")
    let decimals ← (feeds aggregator).decimals
    formatDecimals round.answer.toNat decimals

def getLatestTimestamp (feeds : Address → AggregatorV3Interface) (priceFeedKey : Address) :
    Except Revert Nat := do
  let aggregator := o.getAggregator priceFeedKey
  requireNonEmptyAddress aggregator
  let round ← (feeds aggregator).latestRoundData
  pure round.updatedAt

def getPriceFeedLength : Nat := o.priceFeedKeys.length

def transferOwnership (caller newOwner : Address) : Except Revert ReserveOracle := do
  o.onlyOwner caller
  require (newOwner ≠ .zero) (.message "Ownable: new owner is the zero address")
  pure { o with owner := newOwner }

def renounceOwnership (caller : Address) : Except Revert ReserveOracle := do
  o.onlyOwner caller
  pure { o with owner := .zero }

end ReserveOracle

/-! ### The oracle as a transition system -/

inductive ReserveOracleCall
  | setAggregators (priceFeedKeys aggregators : List Address)
  | addAggregator (priceFeedKey aggregator : Address)
  | removeAggregator (priceFeedKey : Address)
  | transferOwnership (newOwner : Address)
  | renounceOwnership
  deriving DecidableEq

structure ReserveOracleStep where
  caller : Address
  action : ReserveOracleCall
  deriving DecidableEq

def ReserveOracleCall.run (o : ReserveOracle) (caller : Address) :
    ReserveOracleCall → Except Revert ReserveOracle
  | .setAggregators priceFeedKeys aggregators => o.setAggregators caller priceFeedKeys aggregators
  | .addAggregator priceFeedKey aggregator => o.addAggregator caller priceFeedKey aggregator
  | .removeAggregator priceFeedKey => o.removeAggregator caller priceFeedKey
  | .transferOwnership newOwner => o.transferOwnership caller newOwner
  | .renounceOwnership => o.renounceOwnership caller

def ReserveOracleStep.run (o : ReserveOracle) (label : ReserveOracleStep) :
    Except Revert ReserveOracle := label.action.run o label.caller

/-- What `initialize` leaves behind. -/
structure ReserveOracle.Deployed (o : ReserveOracle) : Prop where
  priceFeedMap : o.priceFeedMap = fun _ => .zero
  priceFeedKeys : o.priceFeedKeys = []

def reserveOracles : System ReserveOracle ReserveOracleStep Revert :=
  ⟨ReserveOracle.Deployed, ReserveOracleStep.run⟩

/-! ### The keys are the reserves with a feed -/

namespace ReserveOracle

variable {o o' : ReserveOracle} {caller key aggregator : Address}

def KeysValid (o : ReserveOracle) : Prop :=
  KeyList.Exact o.priceFeedKeys fun key => o.priceFeedMap key ≠ .zero

theorem withoutKey_eq (keys : List Address) (key : Address) :
    withoutKey keys key = KeyList.remove keys key := by
  unfold withoutKey KeyList.remove
  cases hfound : keys.idxOf? key with
  | none => rfl
  | some i =>
    simp only
    split
    · rfl
    · have hlast : i = keys.length - 1 := not_not.mp ‹_›
      rw [hlast, KeyList.swapPop_last]

theorem KeysValid.of_addAggregator (h : o._addAggregator key aggregator = .ok o')
    (hvalid : KeysValid o) : KeysValid o' := by
  unfold _addAggregator at h
  obtain ⟨_, -, h⟩ := bind_eq_ok.mp h
  obtain ⟨_, hne, h⟩ := bind_eq_ok.mp h
  have haggregator : aggregator ≠ .zero := require_eq_ok.mp hne
  rw [← pure_eq_ok.mp h]
  unfold KeysValid
  by_cases hnew : o.priceFeedMap key = .zero
  · simp only [if_pos hnew]
    apply (hvalid.push (not_not.mpr hnew)).congr
    intro other
    rw [Function.update_apply]
    split <;> simp_all
  · simp only [if_neg hnew]
    apply hvalid.congr
    intro other
    rw [Function.update_apply]
    split <;> simp_all

theorem KeysValid.of_removeAggregator (h : o.removeAggregator caller key = .ok o')
    (hvalid : KeysValid o) : KeysValid o' := by
  unfold removeAggregator at h
  obtain ⟨_, -, h⟩ := bind_eq_ok.mp h
  obtain ⟨_, -, h⟩ := bind_eq_ok.mp h
  rw [← pure_eq_ok.mp h]
  unfold KeysValid
  simp only [withoutKey_eq]
  apply (hvalid.remove key).congr
  intro other
  rw [Function.update_apply]
  split <;> simp_all

theorem KeysValid.of_step {label : ReserveOracleStep} (h : label.run o = .ok o')
    (hvalid : KeysValid o) : KeysValid o' := by
  obtain ⟨caller, action⟩ := label
  cases action with
  | setAggregators keys aggregators =>
    obtain ⟨_, -, h⟩ := bind_eq_ok.mp h
    obtain ⟨_, -, h⟩ := bind_eq_ok.mp h
    apply foldlM_preserves _ _ o o' hvalid h
    intro m entry m' _ hm hstep
    exact hm.of_addAggregator hstep
  | addAggregator key aggregator =>
    obtain ⟨_, -, h⟩ := bind_eq_ok.mp h
    exact hvalid.of_addAggregator h
  | removeAggregator key => exact hvalid.of_removeAggregator h
  | transferOwnership newOwner =>
    obtain ⟨_, -, h⟩ := bind_eq_ok.mp h
    obtain ⟨_, -, h⟩ := bind_eq_ok.mp h
    rw [← pure_eq_ok.mp h]
    exact hvalid
  | renounceOwnership =>
    obtain ⟨_, -, h⟩ := bind_eq_ok.mp h
    rw [← pure_eq_ok.mp h]
    exact hvalid

end ReserveOracle

theorem reserveOracles_keysValid {o : ReserveOracle} (h : Reachable reserveOracles o) :
    o.KeysValid := by
  apply h.invariant
  · intro o hdeployed
    unfold ReserveOracle.KeysValid
    rw [hdeployed.priceFeedKeys, hdeployed.priceFeedMap]
    exact .nil fun _ hne => hne rfl
  · intro o label o' _ hvalid hstep
    exact hvalid.of_step hstep

end Confetti
