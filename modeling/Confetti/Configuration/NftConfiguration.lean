import Confetti.Configuration.ConfigurationWord
import Confetti.Types.DataTypes

/-! `NftConfiguration`: the parameters of a collection in one word. -/
namespace Confetti
open Outcome

namespace NftConfigurationMap

def LTV_MASK : BitVec 256 :=
  0xFFFFFFFFFFFFFFFFFFFFFFFFFFFFFFFFFFFFFFFFFFFFFFFFFFFFFFFFFFFF0000#256
def LIQUIDATION_THRESHOLD_MASK : BitVec 256 :=
  0xFFFFFFFFFFFFFFFFFFFFFFFFFFFFFFFFFFFFFFFFFFFFFFFFFFFFFFFF0000FFFF#256
def LIQUIDATION_BONUS_MASK : BitVec 256 :=
  0xFFFFFFFFFFFFFFFFFFFFFFFFFFFFFFFFFFFFFFFFFFFFFFFFFFFF0000FFFFFFFF#256
def ACTIVE_MASK : BitVec 256 :=
  0xFFFFFFFFFFFFFFFFFFFFFFFFFFFFFFFFFFFFFFFFFFFFFFFFFEFFFFFFFFFFFFFF#256
def FROZEN_MASK : BitVec 256 :=
  0xFFFFFFFFFFFFFFFFFFFFFFFFFFFFFFFFFFFFFFFFFFFFFFFFFDFFFFFFFFFFFFFF#256
def REDEEM_DURATION_MASK : BitVec 256 :=
  0xFFFFFFFFFFFFFFFFFFFFFFFFFFFFFFFFFFFFFFFFFFFFFF00FFFFFFFFFFFFFFFF#256
def BUYITNOW_DURATION_MASK : BitVec 256 :=
  0xFFFFFFFFFFFFFFFFFFFFFFFFFFFFFFFFFFFFFFFFFFFF00FFFFFFFFFFFFFFFFFF#256
def REDEEM_FINE_MASK : BitVec 256 :=
  0xFFFFFFFFFFFFFFFFFFFFFFFFFFFFFFFFFFFFFFFF0000FFFFFFFFFFFFFFFFFFFF#256
def REDEEM_THRESHOLD_MASK : BitVec 256 :=
  0xFFFFFFFFFFFFFFFFFFFFFFFFFFFFFFFFFFFF0000FFFFFFFFFFFFFFFFFFFFFFFF#256
def MIN_BUYITNOWFINE_MASK : BitVec 256 :=
  0xFFFFFFFFFFFFFFFFFFFFFFFFFFFFFFFF0000FFFFFFFFFFFFFFFFFFFFFFFFFFFF#256

def LIQUIDATION_THRESHOLD_START_BIT_POSITION : Nat := 16
def LIQUIDATION_BONUS_START_BIT_POSITION : Nat := 32
def IS_ACTIVE_START_BIT_POSITION : Nat := 56
def IS_FROZEN_START_BIT_POSITION : Nat := 57
def REDEEM_DURATION_START_BIT_POSITION : Nat := 64
def BUYITNOW_DURATION_START_BIT_POSITION : Nat := 72
def REDEEM_FINE_START_BIT_POSITION : Nat := 80
def REDEEM_THRESHOLD_START_BIT_POSITION : Nat := 96
def MIN_BUYITNOWFINE_START_BIT_POSITION : Nat := 112

def MAX_VALID_LTV : Nat := 65535
def MAX_VALID_LIQUIDATION_THRESHOLD : Nat := 65535
def MAX_VALID_LIQUIDATION_BONUS : Nat := 65535
def MAX_VALID_REDEEM_DURATION : Nat := 255
def MAX_VALID_BUYITNOW_DURATION : Nat := 255
def MAX_VALID_REDEEM_FINE : Nat := 65535
def MAX_VALID_REDEEM_THRESHOLD : Nat := 65535
def MAX_VALID_MIN_BUYITNOWFINE : Nat := 65535

def setLtv (self : NftConfigurationMap) (ltv : Nat) :
    Except Revert NftConfigurationMap := do
  let data ← writeField LTV_MASK 0
    MAX_VALID_LTV .RC_INVALID_LTV ltv self.data
  pure ⟨data⟩

def getLtv (self : NftConfigurationMap) : Nat :=
  BitField.read LTV_MASK 0 self.data

def setLiquidationThreshold (self : NftConfigurationMap) (threshold : Nat) :
    Except Revert NftConfigurationMap := do
  let data ← writeField LIQUIDATION_THRESHOLD_MASK LIQUIDATION_THRESHOLD_START_BIT_POSITION
    MAX_VALID_LIQUIDATION_THRESHOLD .RC_INVALID_LIQ_THRESHOLD threshold self.data
  pure ⟨data⟩

def getLiquidationThreshold (self : NftConfigurationMap) : Nat :=
  BitField.read LIQUIDATION_THRESHOLD_MASK LIQUIDATION_THRESHOLD_START_BIT_POSITION self.data

def setLiquidationBonus (self : NftConfigurationMap) (bonus : Nat) :
    Except Revert NftConfigurationMap := do
  let data ← writeField LIQUIDATION_BONUS_MASK LIQUIDATION_BONUS_START_BIT_POSITION
    MAX_VALID_LIQUIDATION_BONUS .RC_INVALID_LIQ_BONUS bonus self.data
  pure ⟨data⟩

def getLiquidationBonus (self : NftConfigurationMap) : Nat :=
  BitField.read LIQUIDATION_BONUS_MASK LIQUIDATION_BONUS_START_BIT_POSITION self.data

def setRedeemDuration (self : NftConfigurationMap) (redeemDuration : Nat) :
    Except Revert NftConfigurationMap := do
  let data ← writeField REDEEM_DURATION_MASK REDEEM_DURATION_START_BIT_POSITION
    MAX_VALID_REDEEM_DURATION .RC_INVALID_REDEEM_DURATION redeemDuration self.data
  pure ⟨data⟩

def getRedeemDuration (self : NftConfigurationMap) : Nat :=
  BitField.read REDEEM_DURATION_MASK REDEEM_DURATION_START_BIT_POSITION self.data

def setBuyItNowDuration (self : NftConfigurationMap) (buyItNowDuration : Nat) :
    Except Revert NftConfigurationMap := do
  let data ← writeField BUYITNOW_DURATION_MASK BUYITNOW_DURATION_START_BIT_POSITION
    MAX_VALID_BUYITNOW_DURATION .RC_INVALID_BUYITNOW_DURATION buyItNowDuration self.data
  pure ⟨data⟩

def getBuyItNowDuration (self : NftConfigurationMap) : Nat :=
  BitField.read BUYITNOW_DURATION_MASK BUYITNOW_DURATION_START_BIT_POSITION self.data

def setRedeemFine (self : NftConfigurationMap) (redeemFine : Nat) :
    Except Revert NftConfigurationMap := do
  let data ← writeField REDEEM_FINE_MASK REDEEM_FINE_START_BIT_POSITION
    MAX_VALID_REDEEM_FINE .RC_INVALID_REDEEM_FINE redeemFine self.data
  pure ⟨data⟩

def getRedeemFine (self : NftConfigurationMap) : Nat :=
  BitField.read REDEEM_FINE_MASK REDEEM_FINE_START_BIT_POSITION self.data

def setRedeemThreshold (self : NftConfigurationMap) (redeemThreshold : Nat) :
    Except Revert NftConfigurationMap := do
  let data ← writeField REDEEM_THRESHOLD_MASK REDEEM_THRESHOLD_START_BIT_POSITION
    MAX_VALID_REDEEM_THRESHOLD .RC_INVALID_REDEEM_THRESHOLD redeemThreshold self.data
  pure ⟨data⟩

def getRedeemThreshold (self : NftConfigurationMap) : Nat :=
  BitField.read REDEEM_THRESHOLD_MASK REDEEM_THRESHOLD_START_BIT_POSITION self.data

def setMinBuyItNowFine (self : NftConfigurationMap) (minBuyItNowFine : Nat) :
    Except Revert NftConfigurationMap := do
  let data ← writeField MIN_BUYITNOWFINE_MASK MIN_BUYITNOWFINE_START_BIT_POSITION
    MAX_VALID_MIN_BUYITNOWFINE .RC_INVALID_MIN_BUYITNOW_FINE minBuyItNowFine self.data
  pure ⟨data⟩

def getMinBuyItNowFine (self : NftConfigurationMap) : Nat :=
  BitField.read MIN_BUYITNOWFINE_MASK MIN_BUYITNOWFINE_START_BIT_POSITION self.data

def setActive (self : NftConfigurationMap) (active : Bool) : NftConfigurationMap :=
  ⟨writeFlag ACTIVE_MASK IS_ACTIVE_START_BIT_POSITION active self.data⟩

def getActive (self : NftConfigurationMap) : Bool := readFlag ACTIVE_MASK self.data

def setFrozen (self : NftConfigurationMap) (frozen : Bool) : NftConfigurationMap :=
  ⟨writeFlag FROZEN_MASK IS_FROZEN_START_BIT_POSITION frozen self.data⟩

def getFrozen (self : NftConfigurationMap) : Bool := readFlag FROZEN_MASK self.data

def getFlags (self : NftConfigurationMap) : Bool × Bool :=
  let dataLocal := self.data
  (readFlag ACTIVE_MASK dataLocal, readFlag FROZEN_MASK dataLocal)

def getCollateralParams (self : NftConfigurationMap) : Nat × Nat × Nat :=
  let dataLocal := self.data
  (BitField.read LTV_MASK 0 dataLocal,
    BitField.read LIQUIDATION_THRESHOLD_MASK LIQUIDATION_THRESHOLD_START_BIT_POSITION dataLocal,
    BitField.read LIQUIDATION_BONUS_MASK LIQUIDATION_BONUS_START_BIT_POSITION dataLocal)

/-- Redeem duration, buy-it-now duration, redeem fine and redeem threshold. -/
def getBuyItNowParams (self : NftConfigurationMap) : Nat × Nat × Nat × Nat :=
  let dataLocal := self.data
  (BitField.read REDEEM_DURATION_MASK REDEEM_DURATION_START_BIT_POSITION dataLocal,
    BitField.read BUYITNOW_DURATION_MASK BUYITNOW_DURATION_START_BIT_POSITION dataLocal,
    BitField.read REDEEM_FINE_MASK REDEEM_FINE_START_BIT_POSITION dataLocal,
    BitField.read REDEEM_THRESHOLD_MASK REDEEM_THRESHOLD_START_BIT_POSITION dataLocal)

/-! The readers of a word in memory, written out once more in the source. -/

def getFlagsMemory (self : NftConfigurationMap) : Bool × Bool :=
  (readFlag ACTIVE_MASK self.data, readFlag FROZEN_MASK self.data)

def getCollateralParamsMemory (self : NftConfigurationMap) : Nat × Nat × Nat :=
  (BitField.read LTV_MASK 0 self.data,
    BitField.read LIQUIDATION_THRESHOLD_MASK LIQUIDATION_THRESHOLD_START_BIT_POSITION self.data,
    BitField.read LIQUIDATION_BONUS_MASK LIQUIDATION_BONUS_START_BIT_POSITION self.data)

def getBuyItNowParamsMemory (self : NftConfigurationMap) : Nat × Nat × Nat × Nat :=
  (BitField.read REDEEM_DURATION_MASK REDEEM_DURATION_START_BIT_POSITION self.data,
    BitField.read BUYITNOW_DURATION_MASK BUYITNOW_DURATION_START_BIT_POSITION self.data,
    BitField.read REDEEM_FINE_MASK REDEEM_FINE_START_BIT_POSITION self.data,
    BitField.read REDEEM_THRESHOLD_MASK REDEEM_THRESHOLD_START_BIT_POSITION self.data)

def getMinBuyItNowFineMemory (self : NftConfigurationMap) : Nat :=
  BitField.read MIN_BUYITNOWFINE_MASK MIN_BUYITNOWFINE_START_BIT_POSITION self.data

/-! ### The layout of the word -/

inductive Field
  | ltv
  | liquidationThreshold
  | liquidationBonus
  | active
  | frozen
  | redeemDuration
  | buyItNowDuration
  | redeemFine
  | redeemThreshold
  | minBuyItNowFine
  deriving DecidableEq

def layout : BitField.Layout 256 Field where
  mask
    | .ltv => LTV_MASK
    | .liquidationThreshold => LIQUIDATION_THRESHOLD_MASK
    | .liquidationBonus => LIQUIDATION_BONUS_MASK
    | .active => ACTIVE_MASK
    | .frozen => FROZEN_MASK
    | .redeemDuration => REDEEM_DURATION_MASK
    | .buyItNowDuration => BUYITNOW_DURATION_MASK
    | .redeemFine => REDEEM_FINE_MASK
    | .redeemThreshold => REDEEM_THRESHOLD_MASK
    | .minBuyItNowFine => MIN_BUYITNOWFINE_MASK
  start
    | .ltv => 0
    | .liquidationThreshold => LIQUIDATION_THRESHOLD_START_BIT_POSITION
    | .liquidationBonus => LIQUIDATION_BONUS_START_BIT_POSITION
    | .active => IS_ACTIVE_START_BIT_POSITION
    | .frozen => IS_FROZEN_START_BIT_POSITION
    | .redeemDuration => REDEEM_DURATION_START_BIT_POSITION
    | .buyItNowDuration => BUYITNOW_DURATION_START_BIT_POSITION
    | .redeemFine => REDEEM_FINE_START_BIT_POSITION
    | .redeemThreshold => REDEEM_THRESHOLD_START_BIT_POSITION
    | .minBuyItNowFine => MIN_BUYITNOWFINE_START_BIT_POSITION
  width
    | .active | .frozen => 1
    | .redeemDuration | .buyItNowDuration => 8
    | _ => 16
  clears := by
    intro field
    cases field <;> decide
  disjoint := by
    intro field other
    cases field <;> cases other <;> decide

def value (self : NftConfigurationMap) (field : Field) : Nat := layout.get field self.data

structure Written (old : NftConfigurationMap) (field : Field) (v : Nat)
    (new : NftConfigurationMap) : Prop where
  fits : v < 2 ^ layout.width field
  data : new.data = layout.set field v old.data

variable {self self' : NftConfigurationMap} {field : Field} {v max : Nat} {reason : Errors}

theorem Written.value (h : Written self field v self') (other : Field) :
    self'.value other = if other = field then v else self.value other := by
  unfold NftConfigurationMap.value
  rw [h.data, layout.get_set other h.fits]

theorem written_of_writeField (field : Field) (hmax : max < 2 ^ layout.width field)
    (h : (do
      let data ← writeField (layout.mask field) (layout.start field) max reason v self.data
      pure (⟨data⟩ : NftConfigurationMap)) = .ok self') : Written self field v self' := by
  obtain ⟨hle, rfl⟩ := setNumber_eq_ok.mp h
  exact ⟨Nat.lt_of_le_of_lt hle hmax, rfl⟩

theorem written_setLtv (h : self.setLtv v = .ok self') : Written self .ltv v self' :=
  written_of_writeField .ltv (by decide) h

theorem written_setLiquidationThreshold (h : self.setLiquidationThreshold v = .ok self') :
    Written self .liquidationThreshold v self' :=
  written_of_writeField .liquidationThreshold (by decide) h

theorem written_setLiquidationBonus (h : self.setLiquidationBonus v = .ok self') :
    Written self .liquidationBonus v self' :=
  written_of_writeField .liquidationBonus (by decide) h

theorem written_setRedeemDuration (h : self.setRedeemDuration v = .ok self') :
    Written self .redeemDuration v self' :=
  written_of_writeField .redeemDuration (by decide) h

theorem written_setBuyItNowDuration (h : self.setBuyItNowDuration v = .ok self') :
    Written self .buyItNowDuration v self' :=
  written_of_writeField .buyItNowDuration (by decide) h

theorem written_setRedeemFine (h : self.setRedeemFine v = .ok self') :
    Written self .redeemFine v self' :=
  written_of_writeField .redeemFine (by decide) h

theorem written_setRedeemThreshold (h : self.setRedeemThreshold v = .ok self') :
    Written self .redeemThreshold v self' :=
  written_of_writeField .redeemThreshold (by decide) h

theorem written_setMinBuyItNowFine (h : self.setMinBuyItNowFine v = .ok self') :
    Written self .minBuyItNowFine v self' :=
  written_of_writeField .minBuyItNowFine (by decide) h

theorem written_setActive (flag : Bool) :
    Written self .active (if flag then 1 else 0) (self.setActive flag) := ⟨encodeFlag_lt flag, rfl⟩

theorem written_setFrozen (flag : Bool) :
    Written self .frozen (if flag then 1 else 0) (self.setFrozen flag) := ⟨encodeFlag_lt flag, rfl⟩

theorem getActive_eq : self.getActive = decide (self.value .active ≠ 0) :=
  readFlag_eq (layout.clears .active)

theorem getActive_congr (h : self'.value .active = self.value .active) :
    self'.getActive = self.getActive := by
  rw [getActive_eq, getActive_eq, h]

theorem Written.getActive (h : Written self field v self') (hfield : Field.active ≠ field) :
    self'.getActive = self.getActive := by
  apply getActive_congr
  rw [h.value, if_neg hfield]

@[simp] theorem getActive_setActive (flag : Bool) : (self.setActive flag).getActive = flag := by
  rw [getActive_eq, (written_setActive flag).value, if_pos rfl]
  cases flag <;> decide

@[simp] theorem getActive_setFrozen (flag : Bool) :
    (self.setFrozen flag).getActive = self.getActive :=
  (written_setFrozen flag).getActive (by decide)

/-! ### All fields at once -/

/-- A flag is a `bool`, every other field a number. -/
abbrev Field.Value : Field → Type
  | .active | .frozen => Bool
  | _ => Nat

def Field.Valid : (field : Field) → field.Value → Prop
  | .ltv, (v : Nat) => v ≤ MAX_VALID_LTV
  | .liquidationThreshold, (v : Nat) => v ≤ MAX_VALID_LIQUIDATION_THRESHOLD
  | .liquidationBonus, (v : Nat) => v ≤ MAX_VALID_LIQUIDATION_BONUS
  | .active, _ => True
  | .frozen, _ => True
  | .redeemDuration, (v : Nat) => v ≤ MAX_VALID_REDEEM_DURATION
  | .buyItNowDuration, (v : Nat) => v ≤ MAX_VALID_BUYITNOW_DURATION
  | .redeemFine, (v : Nat) => v ≤ MAX_VALID_REDEEM_FINE
  | .redeemThreshold, (v : Nat) => v ≤ MAX_VALID_REDEEM_THRESHOLD
  | .minBuyItNowFine, (v : Nat) => v ≤ MAX_VALID_MIN_BUYITNOWFINE

def set (self : NftConfigurationMap) :
    (field : Field) → field.Value → Except Revert NftConfigurationMap
  | .ltv, ltv => self.setLtv ltv
  | .liquidationThreshold, threshold => self.setLiquidationThreshold threshold
  | .liquidationBonus, bonus => self.setLiquidationBonus bonus
  | .active, active => .ok (self.setActive active)
  | .frozen, frozen => .ok (self.setFrozen frozen)
  | .redeemDuration, redeemDuration => self.setRedeemDuration redeemDuration
  | .buyItNowDuration, buyItNowDuration => self.setBuyItNowDuration buyItNowDuration
  | .redeemFine, redeemFine => self.setRedeemFine redeemFine
  | .redeemThreshold, redeemThreshold => self.setRedeemThreshold redeemThreshold
  | .minBuyItNowFine, minBuyItNowFine => self.setMinBuyItNowFine minBuyItNowFine

def get (self : NftConfigurationMap) : (field : Field) → field.Value
  | .ltv => self.getLtv
  | .liquidationThreshold => self.getLiquidationThreshold
  | .liquidationBonus => self.getLiquidationBonus
  | .active => self.getActive
  | .frozen => self.getFrozen
  | .redeemDuration => self.getRedeemDuration
  | .buyItNowDuration => self.getBuyItNowDuration
  | .redeemFine => self.getRedeemFine
  | .redeemThreshold => self.getRedeemThreshold
  | .minBuyItNowFine => self.getMinBuyItNowFine

def coding : BitField.Coding layout Field.Value where
  encode
    | .active | .frozen => encodeFlag
    | .ltv | .liquidationThreshold | .liquidationBonus | .redeemDuration | .buyItNowDuration
    | .redeemFine | .redeemThreshold | .minBuyItNowFine => id
  decode
    | .active | .frozen => decodeFlag
    | .ltv | .liquidationThreshold | .liquidationBonus | .redeemDuration | .buyItNowDuration
    | .redeemFine | .redeemThreshold | .minBuyItNowFine => id
  Fits := Field.Valid
  decode_encode := by
    intro field v
    cases field
    case active | frozen => exact decodeFlag_encodeFlag v
    all_goals rfl
  encode_lt := by
    intro field v hvalid
    cases field
    case active | frozen => exact encodeFlag_lt v
    all_goals exact Nat.lt_succ_of_le hvalid

theorem get_eq (field : Field) : self.get field = coding.get field self.data := by
  cases field
  case active => exact readFlag_eq (layout.clears .active)
  case frozen => exact readFlag_eq (layout.clears .frozen)
  all_goals rfl

theorem set_eq_ok (field : Field) (v : field.Value) :
    self.set field v = .ok self' ↔ field.Valid v ∧ self' = ⟨coding.set field v self.data⟩ := by
  cases field
  case active | frozen => exact setFlag_eq_ok
  all_goals exact setNumber_eq_ok

end NftConfigurationMap

end Confetti
