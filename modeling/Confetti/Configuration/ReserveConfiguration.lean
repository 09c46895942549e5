import Confetti.Configuration.ConfigurationWord
import Confetti.Types.DataTypes

/-! `ReserveConfiguration`: the parameters of a reserve in one word. -/
namespace Confetti
open Outcome

namespace ReserveConfigurationMap

def LTV_MASK : BitVec 256 :=
  0xFFFFFFFFFFFFFFFFFFFFFFFFFFFFFFFFFFFFFFFFFFFFFFFFFFFFFFFFFFFF0000#256
def LIQUIDATION_THRESHOLD_MASK : BitVec 256 :=
  0xFFFFFFFFFFFFFFFFFFFFFFFFFFFFFFFFFFFFFFFFFFFFFFFFFFFFFFFF0000FFFF#256
def LIQUIDATION_BONUS_MASK : BitVec 256 :=
  0xFFFFFFFFFFFFFFFFFFFFFFFFFFFFFFFFFFFFFFFFFFFFFFFFFFFF0000FFFFFFFF#256
def DECIMALS_MASK : BitVec 256 :=
  0xFFFFFFFFFFFFFFFFFFFFFFFFFFFFFFFFFFFFFFFFFFFFFFFFFF00FFFFFFFFFFFF#256
def ACTIVE_MASK : BitVec 256 :=
  0xFFFFFFFFFFFFFFFFFFFFFFFFFFFFFFFFFFFFFFFFFFFFFFFFFEFFFFFFFFFFFFFF#256
def FROZEN_MASK : BitVec 256 :=
  0xFFFFFFFFFFFFFFFFFFFFFFFFFFFFFFFFFFFFFFFFFFFFFFFFFDFFFFFFFFFFFFFF#256
def BORROWING_MASK : BitVec 256 :=
  0xFFFFFFFFFFFFFFFFFFFFFFFFFFFFFFFFFFFFFFFFFFFFFFFFFBFFFFFFFFFFFFFF#256
def STABLE_BORROWING_MASK : BitVec 256 :=
  0xFFFFFFFFFFFFFFFFFFFFFFFFFFFFFFFFFFFFFFFFFFFFFFFFF7FFFFFFFFFFFFFF#256
def RESERVE_FACTOR_MASK : BitVec 256 :=
  0xFFFFFFFFFFFFFFFFFFFFFFFFFFFFFFFFFFFFFFFFFFFF0000FFFFFFFFFFFFFFFF#256

def LIQUIDATION_THRESHOLD_START_BIT_POSITION : Nat := 16
def LIQUIDATION_BONUS_START_BIT_POSITION : Nat := 32
def RESERVE_DECIMALS_START_BIT_POSITION : Nat := 48
def IS_ACTIVE_START_BIT_POSITION : Nat := 56
def IS_FROZEN_START_BIT_POSITION : Nat := 57
def BORROWING_ENABLED_START_BIT_POSITION : Nat := 58
def STABLE_BORROWING_ENABLED_START_BIT_POSITION : Nat := 59
def RESERVE_FACTOR_START_BIT_POSITION : Nat := 64

def MAX_VALID_LTV : Nat := 65535
def MAX_VALID_LIQUIDATION_THRESHOLD : Nat := 65535
def MAX_VALID_LIQUIDATION_BONUS : Nat := 65535
def MAX_VALID_DECIMALS : Nat := 255
def MAX_VALID_RESERVE_FACTOR : Nat := 65535

def setLtv (self : ReserveConfigurationMap) (ltv : Nat) :
    Except Revert ReserveConfigurationMap := do
  let data ← writeField LTV_MASK 0
    MAX_VALID_LTV .RC_INVALID_LTV ltv self.data
  pure ⟨data⟩

def getLtv (self : ReserveConfigurationMap) : Nat :=
  BitField.read LTV_MASK 0 self.data

def setLiquidationThreshold (self : ReserveConfigurationMap) (threshold : Nat) :
    Except Revert ReserveConfigurationMap := do
  let data ← writeField LIQUIDATION_THRESHOLD_MASK LIQUIDATION_THRESHOLD_START_BIT_POSITION
    MAX_VALID_LIQUIDATION_THRESHOLD .RC_INVALID_LIQ_THRESHOLD threshold self.data
  pure ⟨data⟩

def getLiquidationThreshold (self : ReserveConfigurationMap) : Nat :=
  BitField.read LIQUIDATION_THRESHOLD_MASK LIQUIDATION_THRESHOLD_START_BIT_POSITION self.data

def setLiquidationBonus (self : ReserveConfigurationMap) (bonus : Nat) :
    Except Revert ReserveConfigurationMap := do
  let data ← writeField LIQUIDATION_BONUS_MASK LIQUIDATION_BONUS_START_BIT_POSITION
    MAX_VALID_LIQUIDATION_BONUS .RC_INVALID_LIQ_BONUS bonus self.data
  pure ⟨data⟩

def getLiquidationBonus (self : ReserveConfigurationMap) : Nat :=
  BitField.read LIQUIDATION_BONUS_MASK LIQUIDATION_BONUS_START_BIT_POSITION self.data

def setDecimals (self : ReserveConfigurationMap) (decimals : Nat) :
    Except Revert ReserveConfigurationMap := do
  let data ← writeField DECIMALS_MASK RESERVE_DECIMALS_START_BIT_POSITION
    MAX_VALID_DECIMALS .RC_INVALID_DECIMALS decimals self.data
  pure ⟨data⟩

def getDecimals (self : ReserveConfigurationMap) : Nat :=
  BitField.read DECIMALS_MASK RESERVE_DECIMALS_START_BIT_POSITION self.data

def setReserveFactor (self : ReserveConfigurationMap) (reserveFactor : Nat) :
    Except Revert ReserveConfigurationMap := do
  let data ← writeField RESERVE_FACTOR_MASK RESERVE_FACTOR_START_BIT_POSITION
    MAX_VALID_RESERVE_FACTOR .RC_INVALID_RESERVE_FACTOR reserveFactor self.data
  pure ⟨data⟩

def getReserveFactor (self : ReserveConfigurationMap) : Nat :=
  BitField.read RESERVE_FACTOR_MASK RESERVE_FACTOR_START_BIT_POSITION self.data

def setActive (self : ReserveConfigurationMap) (active : Bool) : ReserveConfigurationMap :=
  ⟨writeFlag ACTIVE_MASK IS_ACTIVE_START_BIT_POSITION active self.data⟩

def getActive (self : ReserveConfigurationMap) : Bool := readFlag ACTIVE_MASK self.data

def setFrozen (self : ReserveConfigurationMap) (frozen : Bool) : ReserveConfigurationMap :=
  ⟨writeFlag FROZEN_MASK IS_FROZEN_START_BIT_POSITION frozen self.data⟩

def getFrozen (self : ReserveConfigurationMap) : Bool := readFlag FROZEN_MASK self.data

def setBorrowingEnabled (self : ReserveConfigurationMap) (enabled : Bool) :
    ReserveConfigurationMap :=
  ⟨writeFlag BORROWING_MASK BORROWING_ENABLED_START_BIT_POSITION enabled self.data⟩

def getBorrowingEnabled (self : ReserveConfigurationMap) : Bool := readFlag BORROWING_MASK self.data

def setStableRateBorrowingEnabled (self : ReserveConfigurationMap) (enabled : Bool) :
    ReserveConfigurationMap :=
  ⟨writeFlag STABLE_BORROWING_MASK STABLE_BORROWING_ENABLED_START_BIT_POSITION enabled self.data⟩

def getStableRateBorrowingEnabled (self : ReserveConfigurationMap) : Bool :=
  readFlag STABLE_BORROWING_MASK self.data

/-- Active, frozen, borrowing and stable borrowing, read off one local copy. -/
def getFlags (self : ReserveConfigurationMap) : Bool × Bool × Bool × Bool :=
  let dataLocal := self.data
  (readFlag ACTIVE_MASK dataLocal, readFlag FROZEN_MASK dataLocal,
    readFlag BORROWING_MASK dataLocal, readFlag STABLE_BORROWING_MASK dataLocal)

/-- Loan to value, liquidation threshold and bonus, decimals and reserve factor. -/
def getParams (self : ReserveConfigurationMap) : Nat × Nat × Nat × Nat × Nat :=
  let dataLocal := self.data
  (BitField.read LTV_MASK 0 dataLocal,
    BitField.read LIQUIDATION_THRESHOLD_MASK LIQUIDATION_THRESHOLD_START_BIT_POSITION dataLocal,
    BitField.read LIQUIDATION_BONUS_MASK LIQUIDATION_BONUS_START_BIT_POSITION dataLocal,
    BitField.read DECIMALS_MASK RESERVE_DECIMALS_START_BIT_POSITION dataLocal,
    BitField.read RESERVE_FACTOR_MASK RESERVE_FACTOR_START_BIT_POSITION dataLocal)

/-! The readers of a word in memory, written out once more in the source. -/

def getParamsMemory (self : ReserveConfigurationMap) : Nat × Nat × Nat × Nat × Nat :=
  (BitField.read LTV_MASK 0 self.data,
    BitField.read LIQUIDATION_THRESHOLD_MASK LIQUIDATION_THRESHOLD_START_BIT_POSITION self.data,
    BitField.read LIQUIDATION_BONUS_MASK LIQUIDATION_BONUS_START_BIT_POSITION self.data,
    BitField.read DECIMALS_MASK RESERVE_DECIMALS_START_BIT_POSITION self.data,
    BitField.read RESERVE_FACTOR_MASK RESERVE_FACTOR_START_BIT_POSITION self.data)

def getFlagsMemory (self : ReserveConfigurationMap) : Bool × Bool × Bool × Bool :=
  (readFlag ACTIVE_MASK self.data, readFlag FROZEN_MASK self.data,
    readFlag BORROWING_MASK self.data, readFlag STABLE_BORROWING_MASK self.data)

theorem clears_reserveFactor :
    BitField.Clears RESERVE_FACTOR_MASK RESERVE_FACTOR_START_BIT_POSITION 16 := by decide

theorem setReserveFactor_eq_ok {self self' : ReserveConfigurationMap} {reserveFactor : Nat} :
    self.setReserveFactor reserveFactor = .ok self' ↔
      reserveFactor ≤ MAX_VALID_RESERVE_FACTOR ∧
        self' = ⟨BitField.write RESERVE_FACTOR_MASK RESERVE_FACTOR_START_BIT_POSITION
          reserveFactor self.data⟩ := setNumber_eq_ok

theorem getReserveFactor_setReserveFactor {self self' : ReserveConfigurationMap}
    {reserveFactor : Nat} (h : self.setReserveFactor reserveFactor = .ok self') :
    self'.getReserveFactor = reserveFactor := by
  obtain ⟨hle, rfl⟩ := setReserveFactor_eq_ok.mp h
  exact BitField.read_write clears_reserveFactor (by unfold MAX_VALID_RESERVE_FACTOR at hle; omega)

/-! ### The layout of the word -/

inductive Field
  | ltv
  | liquidationThreshold
  | liquidationBonus
  | decimals
  | active
  | frozen
  | borrowing
  | stableBorrowing
  | reserveFactor
  deriving DecidableEq

def layout : BitField.Layout 256 Field where
  mask
    | .ltv => LTV_MASK
    | .liquidationThreshold => LIQUIDATION_THRESHOLD_MASK
    | .liquidationBonus => LIQUIDATION_BONUS_MASK
    | .decimals => DECIMALS_MASK
    | .active => ACTIVE_MASK
    | .frozen => FROZEN_MASK
    | .borrowing => BORROWING_MASK
    | .stableBorrowing => STABLE_BORROWING_MASK
    | .reserveFactor => RESERVE_FACTOR_MASK
  start
    | .ltv => 0
    | .liquidationThreshold => LIQUIDATION_THRESHOLD_START_BIT_POSITION
    | .liquidationBonus => LIQUIDATION_BONUS_START_BIT_POSITION
    | .decimals => RESERVE_DECIMALS_START_BIT_POSITION
    | .active => IS_ACTIVE_START_BIT_POSITION
    | .frozen => IS_FROZEN_START_BIT_POSITION
    | .borrowing => BORROWING_ENABLED_START_BIT_POSITION
    | .stableBorrowing => STABLE_BORROWING_ENABLED_START_BIT_POSITION
    | .reserveFactor => RESERVE_FACTOR_START_BIT_POSITION
  width
    | .decimals => 8
    | .active | .frozen | .borrowing | .stableBorrowing => 1
    | _ => 16
  clears := by
    intro field
    cases field <;> decide
  disjoint := by
    intro field other
    cases field <;> cases other <;> decide

variable {self self' : ReserveConfigurationMap}

theorem getActive_eq : self.getActive = decide (layout.get .active self.data ≠ 0) :=
  readFlag_eq (layout.clears .active)

theorem getActive_of_set (field : Field) {value : Nat} (hfield : field ≠ .active)
    (hvalue : value < 2 ^ layout.width field) (h : self'.data = layout.set field value self.data) :
    self'.getActive = self.getActive := by
  rw [getActive_eq, getActive_eq, h, layout.get_set .active hvalue, if_neg hfield.symm]

@[simp] theorem getActive_setActive (flag : Bool) : (self.setActive flag).getActive = flag := by
  have hset : (self.setActive flag).data = layout.set .active (if flag then 1 else 0) self.data :=
    rfl
  rw [getActive_eq, hset, layout.get_set .active (encodeFlag_lt flag), if_pos rfl]
  cases flag <;> decide

@[simp] theorem getActive_setFrozen (flag : Bool) :
    (self.setFrozen flag).getActive = self.getActive :=
  getActive_of_set .frozen (by decide) (encodeFlag_lt flag) rfl

@[simp] theorem getActive_setBorrowingEnabled (flag : Bool) :
    (self.setBorrowingEnabled flag).getActive = self.getActive :=
  getActive_of_set .borrowing (by decide) (encodeFlag_lt flag) rfl

theorem getActive_setReserveFactor {reserveFactor : Nat}
    (h : self.setReserveFactor reserveFactor = .ok self') : self'.getActive = self.getActive := by
  obtain ⟨hle, rfl⟩ := setReserveFactor_eq_ok.mp h
  apply getActive_of_set .reserveFactor (by decide) _ rfl
  unfold MAX_VALID_RESERVE_FACTOR at hle
  exact Nat.lt_succ_of_le hle

/-! ### All fields at once -/

/-- A flag is a `bool`, every other field a number. -/
abbrev Field.Value : Field → Type
  | .active | .frozen | .borrowing | .stableBorrowing => Bool
  | _ => Nat

def Field.Valid : (field : Field) → field.Value → Prop
  | .ltv, (v : Nat) => v ≤ MAX_VALID_LTV
  | .liquidationThreshold, (v : Nat) => v ≤ MAX_VALID_LIQUIDATION_THRESHOLD
  | .liquidationBonus, (v : Nat) => v ≤ MAX_VALID_LIQUIDATION_BONUS
  | .decimals, (v : Nat) => v ≤ MAX_VALID_DECIMALS
  | .active, _ => True
  | .frozen, _ => True
  | .borrowing, _ => True
  | .stableBorrowing, _ => True
  | .reserveFactor, (v : Nat) => v ≤ MAX_VALID_RESERVE_FACTOR

def set (self : ReserveConfigurationMap) :
    (field : Field) → field.Value → Except Revert ReserveConfigurationMap
  | .ltv, ltv => self.setLtv ltv
  | .liquidationThreshold, threshold => self.setLiquidationThreshold threshold
  | .liquidationBonus, bonus => self.setLiquidationBonus bonus
  | .decimals, decimals => self.setDecimals decimals
  | .active, active => .ok (self.setActive active)
  | .frozen, frozen => .ok (self.setFrozen frozen)
  | .borrowing, enabled => .ok (self.setBorrowingEnabled enabled)
  | .stableBorrowing, enabled => .ok (self.setStableRateBorrowingEnabled enabled)
  | .reserveFactor, reserveFactor => self.setReserveFactor reserveFactor

def get (self : ReserveConfigurationMap) : (field : Field) → field.Value
  | .ltv => self.getLtv
  | .liquidationThreshold => self.getLiquidationThreshold
  | .liquidationBonus => self.getLiquidationBonus
  | .decimals => self.getDecimals
  | .active => self.getActive
  | .frozen => self.getFrozen
  | .borrowing => self.getBorrowingEnabled
  | .stableBorrowing => self.getStableRateBorrowingEnabled
  | .reserveFactor => self.getReserveFactor

def coding : BitField.Coding layout Field.Value where
  encode
    | .active | .frozen | .borrowing | .stableBorrowing => encodeFlag
    | .ltv | .liquidationThreshold | .liquidationBonus | .decimals | .reserveFactor => id
  decode
    | .active | .frozen | .borrowing | .stableBorrowing => decodeFlag
    | .ltv | .liquidationThreshold | .liquidationBonus | .decimals | .reserveFactor => id
  Fits := Field.Valid
  decode_encode := by
    intro field v
    cases field
    case active | frozen | borrowing | stableBorrowing => exact decodeFlag_encodeFlag v
    all_goals rfl
  encode_lt := by
    intro field v hvalid
    cases field
    case active | frozen | borrowing | stableBorrowing => exact encodeFlag_lt v
    all_goals exact Nat.lt_succ_of_le hvalid

theorem get_eq (field : Field) : self.get field = coding.get field self.data := by
  cases field
  case active => exact readFlag_eq (layout.clears .active)
  case frozen => exact readFlag_eq (layout.clears .frozen)
  case borrowing => exact readFlag_eq (layout.clears .borrowing)
  case stableBorrowing => exact readFlag_eq (layout.clears .stableBorrowing)
  all_goals rfl

theorem set_eq_ok (field : Field) (v : field.Value) :
    self.set field v = .ok self' ↔ field.Valid v ∧ self' = ⟨coding.set field v self.data⟩ := by
  cases field
  case active | frozen | borrowing | stableBorrowing => exact setFlag_eq_ok
  all_goals exact setNumber_eq_ok

end ReserveConfigurationMap

end Confetti
