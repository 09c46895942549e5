import Mathlib.Algebra.Group.Nat.Defs
import Mathlib.Logic.Basic
import Mathlib.Tactic.Common

/-! Fields packed into one machine word. A field is given by its mask, which is
zero exactly on the bits of the field, and by the position of its lowest bit. -/
namespace BitField

variable {w : Nat}

def write (mask : BitVec w) (start value : Nat) (word : BitVec w) : BitVec w :=
  (word &&& mask) ||| (BitVec.ofNat w value <<< start)

def read (mask : BitVec w) (start : Nat) (word : BitVec w) : Nat :=
  ((word &&& ~~~mask) >>> start).toNat

/-- The mask clears `width` bits from `start` on. -/
def Clears (mask : BitVec w) (start width : Nat) : Prop :=
  mask = ~~~(BitVec.ofNat w (2 ^ width - 1) <<< start) ∧ start + width ≤ w

instance (mask : BitVec w) (start width : Nat) : Decidable (Clears mask start width) :=
  inferInstanceAs (Decidable (_ ∧ _))

variable {mask mask' word : BitVec w} {start start' width width' value : Nat}

/-- Bit by bit, the mask of a field is false exactly inside the field. -/
theorem Clears.getLsbD (h : Clears mask start width) {i : Nat} (hi : i < w) :
    mask.getLsbD i = !(decide (start ≤ i) && decide (i < start + width)) := by
  obtain ⟨rfl, -⟩ := h
  simp only [BitVec.getLsbD_not, BitVec.getLsbD_shiftLeft, BitVec.getLsbD_ofNat,
    Nat.testBit_two_pow_sub_one, hi]
  by_cases hlow : i < start
  · simp [hlow]
  · have hword : i - start < w := by omega
    have hwidth : i - start < width ↔ i < start + width := by omega
    simp [hlow, hword, hwidth, Nat.le_of_not_lt hlow]

private theorem getLsbD_write {i : Nat} (hi : i < w) :
    (write mask start value word).getLsbD i =
      (word.getLsbD i && mask.getLsbD i || !decide (i < start) && value.testBit (i - start)) := by
  have hword : i - start < w := by omega
  simp only [write, BitVec.getLsbD_or, BitVec.getLsbD_and, BitVec.getLsbD_shiftLeft,
    BitVec.getLsbD_ofNat, hi, hword, decide_true, Bool.true_and]

private theorem getLsbD_field {i : Nat} (hi : start + i < w) :
    ((word &&& ~~~mask) >>> start).getLsbD i =
      (word.getLsbD (start + i) && !mask.getLsbD (start + i)) := by
  simp only [BitVec.getLsbD_ushiftRight, BitVec.getLsbD_and, BitVec.getLsbD_not, hi, decide_true,
    Bool.true_and]

private theorem getLsbD_field_of_le {i : Nat} (hi : w ≤ start + i) :
    ((word &&& ~~~mask) >>> start).getLsbD i = false := by
  rw [BitVec.getLsbD_ushiftRight, BitVec.getLsbD_of_ge _ _ hi]

theorem read_write (h : Clears mask start width) (hvalue : value < 2 ^ width) :
    read mask start (write mask start value word) = value := by
  obtain ⟨-, hfits⟩ := id h
  have hw : value < 2 ^ w := Nat.lt_of_lt_of_le hvalue (Nat.pow_le_pow_right (by decide) (by omega))
  have hbits : ((write mask start value word &&& ~~~mask) >>> start) = BitVec.ofNat w value := by
    apply BitVec.eq_of_getLsbD_eq
    intro i hi
    rw [BitVec.getLsbD_ofNat]
    by_cases hin : i < width
    · have hpos : start + i < w := by omega
      rw [getLsbD_field hpos, getLsbD_write hpos, h.getLsbD hpos]
      simp [hi, hin]
    · have hzero : value.testBit i = false :=
        Nat.testBit_lt_two_pow (Nat.lt_of_lt_of_le hvalue
          (Nat.pow_le_pow_right (by decide) (by omega)))
      by_cases hpos : start + i < w
      · rw [getLsbD_field hpos, h.getLsbD hpos]
        simp [hin, hzero]
      · rw [getLsbD_field_of_le (by omega), hzero, Bool.and_false]
  rw [read, hbits, BitVec.toNat_ofNat, Nat.mod_eq_of_lt hw]

theorem read_write_of_disjoint (h : Clears mask start width) (h' : Clears mask' start' width')
    (hdisjoint : start + width ≤ start' ∨ start' + width' ≤ start) (hvalue : value < 2 ^ width) :
    read mask' start' (write mask start value word) = read mask' start' word := by
  unfold read
  congr 1
  apply BitVec.eq_of_getLsbD_eq
  intro i hi
  by_cases hpos : start' + i < w
  · rw [getLsbD_field hpos, getLsbD_field hpos, getLsbD_write hpos, h.getLsbD hpos,
      h'.getLsbD hpos]
    by_cases hin : i < width'
    · rcases hdisjoint with habove | hbelow
      · have hout : ¬start' + i < start + width := by omega
        have hzero : value.testBit (start' + i - start) = false :=
          Nat.testBit_lt_two_pow (Nat.lt_of_lt_of_le hvalue
            (Nat.pow_le_pow_right (by decide) (by omega)))
        simp [hout, hzero]
      · have hlow : start' + i < start := by omega
        simp [hlow, Nat.not_le.mpr hlow]
    · simp [hin]
  · rw [getLsbD_field_of_le (by omega), getLsbD_field_of_le (by omega)]

/-- A field is zero exactly when all of its bits are. -/
theorem read_eq_zero_iff (h : Clears mask start width) :
    read mask start word = 0 ↔ word &&& ~~~mask = 0#w := by
  constructor
  · intro hzero
    apply BitVec.eq_of_getLsbD_eq
    intro i hi
    rw [BitVec.getLsbD_zero, BitVec.getLsbD_and, BitVec.getLsbD_not, h.getLsbD hi]
    by_cases hlow : start ≤ i
    · have hpos : start + (i - start) < w := by omega
      have hbit : ((word &&& ~~~mask) >>> start).getLsbD (i - start) = false := by
        rw [BitVec.getLsbD, show ((word &&& ~~~mask) >>> start).toNat = 0 from hzero]
        exact Nat.zero_testBit _
      rw [getLsbD_field hpos, h.getLsbD hpos, show start + (i - start) = i by omega] at hbit
      simpa [hi] using hbit
    · simp [hlow]
  · intro hzero
    unfold read
    rw [hzero]
    simp

theorem read_lt (h : Clears mask start width) (word : BitVec w) :
    read mask start word < 2 ^ width := by
  apply Nat.lt_pow_two_of_testBit
  intro i hi
  change ((word &&& ~~~mask) >>> start).getLsbD i = false
  by_cases hpos : start + i < w
  · have hout : ¬start + i < start + width := by omega
    rw [getLsbD_field hpos, h.getLsbD hpos]
    simp [hout]
  · exact getLsbD_field_of_le (by omega)

/-! ### Layouts -/

structure Layout (w : Nat) (ι : Type) where
  mask : ι → BitVec w
  start : ι → Nat
  width : ι → Nat
  clears : ∀ i, Clears (mask i) (start i) (width i)
  disjoint : ∀ i j, i ≠ j → start i + width i ≤ start j ∨ start j + width j ≤ start i

namespace Layout

variable {ι : Type} (L : Layout w ι)

def get (i : ι) (word : BitVec w) : Nat := read (L.mask i) (L.start i) word

def set (i : ι) (value : Nat) (word : BitVec w) : BitVec w :=
  write (L.mask i) (L.start i) value word

theorem get_lt (i : ι) (word : BitVec w) : L.get i word < 2 ^ L.width i :=
  read_lt (L.clears i) word

theorem get_set [DecidableEq ι] {i : ι} (j : ι) (hvalue : value < 2 ^ L.width i) :
    L.get j (L.set i value word) = if j = i then value else L.get j word := by
  unfold get set
  by_cases hfield : j = i
  · subst hfield
    rw [if_pos rfl, read_write (L.clears j) hvalue]
  · rw [if_neg hfield, read_write_of_disjoint (L.clears i) (L.clears j) _ hvalue]
    exact L.disjoint i j (Ne.symm hfield)

theorem getLsbD_set {i : ι} {n : Nat} (hvalue : value < 2 ^ L.width i)
    (hkept : (L.mask i).getLsbD n = true) :
    (L.set i value word).getLsbD n = word.getLsbD n := by
  have hn : n < w := BitVec.lt_of_getLsbD hkept
  have hout := hkept
  rw [(L.clears i).getLsbD hn] at hout
  unfold set
  rw [getLsbD_write hn, hkept, Bool.and_true]
  by_cases hlow : n < L.start i
  · simp [hlow]
  · have hpast : L.start i + L.width i ≤ n := by
      simp only [Bool.not_eq_true', Bool.and_eq_false_iff, decide_eq_false_iff_not] at hout
      omega
    have hzero : value.testBit (n - L.start i) = false :=
      Nat.testBit_lt_two_pow (Nat.lt_of_lt_of_le hvalue
        (Nat.pow_le_pow_right (by decide) (by omega)))
    rw [hzero, Bool.and_false, Bool.or_false]

end Layout

/-! ### Fields with values of their own types -/

structure Coding {ι : Type} (L : Layout w ι) (Value : ι → Type) where
  encode : ∀ i, Value i → Nat
  decode : ∀ i, Nat → Value i
  Fits : ∀ i, Value i → Prop
  decode_encode : ∀ i v, decode i (encode i v) = v
  encode_lt : ∀ i v, Fits i v → encode i v < 2 ^ L.width i

namespace Coding

variable {ι : Type} {Value : ι → Type} {L : Layout w ι} (C : Coding L Value)

def get (i : ι) (word : BitVec w) : Value i := C.decode i (L.get i word)

def set (i : ι) (v : Value i) (word : BitVec w) : BitVec w := L.set i (C.encode i v) word

theorem get_set_self [DecidableEq ι] {i : ι} {v : Value i} (hfits : C.Fits i v) :
    C.get i (C.set i v word) = v := by
  unfold get set
  rw [L.get_set i (C.encode_lt i v hfits), if_pos rfl, C.decode_encode]

theorem get_set_of_ne [DecidableEq ι] {i j : ι} {v : Value i} (hfits : C.Fits i v) (hne : j ≠ i) :
    C.get j (C.set i v word) = C.get j word := by
  unfold get set
  rw [L.get_set j (C.encode_lt i v hfits), if_neg hne]

theorem getLsbD_set {i : ι} {v : Value i} {n : Nat} (hfits : C.Fits i v)
    (hkept : (L.mask i).getLsbD n = true) : (C.set i v word).getLsbD n = word.getLsbD n :=
  L.getLsbD_set (C.encode_lt i v hfits) hkept

end Coding

end BitField
