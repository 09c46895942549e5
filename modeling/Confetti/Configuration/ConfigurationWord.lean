import Confetti.Library.BitField
import Confetti.Library.Outcome
import Confetti.Types.Errors

/-! The setters and getters of both configuration words are one shape, at the
masks, positions and bounds of their fields. -/
namespace Confetti
open Outcome

def writeField (mask : BitVec 256) (start max : Nat) (reason : Errors) (value : Nat)
    (data : BitVec 256) : Except Revert (BitVec 256) := do
  require (value ≤ max) (.error reason)
  pure (BitField.write mask start value data)

def writeFlag (mask : BitVec 256) (start : Nat) (flag : Bool) (data : BitVec 256) : BitVec 256 :=
  BitField.write mask start (if flag then 1 else 0) data

def readFlag (mask : BitVec 256) (data : BitVec 256) : Bool :=
  data &&& ~~~mask != 0

theorem writeField_eq_ok {mask data r : BitVec 256} {start max value : Nat} {reason : Errors} :
    writeField mask start max reason value data = .ok r ↔
      value ≤ max ∧ r = BitField.write mask start value data := by
  simp only [writeField, bind_eq_ok, require_eq_ok, exists_const, pure_eq_ok]
  exact and_congr_right fun _ => eq_comm

/-! The setters of a word with its own type: a number that fits, or a flag. -/

theorem setNumber_eq_ok {Word : Type} {word : BitVec 256 → Word} {mask data : BitVec 256}
    {start max value : Nat} {reason : Errors} {r : Word} :
    (do
      let data ← writeField mask start max reason value data
      pure (word data)) = .ok r ↔
        value ≤ max ∧ r = word (BitField.write mask start value data) := by
  rw [bind_pure_eq_ok]
  constructor
  · intro h
    obtain ⟨_, hwrite, rfl⟩ := h
    obtain ⟨hle, rfl⟩ := writeField_eq_ok.mp hwrite
    exact ⟨hle, rfl⟩
  · intro h
    exact ⟨_, writeField_eq_ok.mpr ⟨h.1, rfl⟩, h.2⟩

theorem setFlag_eq_ok {Word : Type} {word r : Word} :
    (.ok word : Except Revert Word) = .ok r ↔ True ∧ r = word := by
  rw [Except.ok.injEq, true_and, eq_comm]

theorem readFlag_eq {mask data : BitVec 256} {start width : Nat}
    (h : BitField.Clears mask start width) :
    readFlag mask data = decide (BitField.read mask start data ≠ 0) := by
  have hzero : BitField.read mask start data = 0 ↔ data &&& ~~~mask = 0#256 :=
    BitField.read_eq_zero_iff h
  by_cases hread : BitField.read mask start data = 0
  · simp [readFlag, hread, hzero.mp hread]
  · simp [readFlag, hread, mt hzero.mpr hread]

/-! A flag as the value of a one-bit field. -/

def encodeFlag (flag : Bool) : Nat := if flag then 1 else 0

def decodeFlag (value : Nat) : Bool := decide (value ≠ 0)

theorem decodeFlag_encodeFlag (flag : Bool) : decodeFlag (encodeFlag flag) = flag := by
  cases flag
  · rfl
  · rfl

theorem encodeFlag_lt (flag : Bool) : encodeFlag flag < 2 ^ 1 := by
  cases flag
  · decide
  · decide

end Confetti
