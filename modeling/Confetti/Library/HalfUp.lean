import Mathlib.Algebra.Order.Field.Basic
import Mathlib.Data.Rat.Cast.Order
import Mathlib.Data.Rat.Floor
import Mathlib.Tactic.Ring
import Mathlib.Tactic.Linarith
import Mathlib.Tactic.FieldSimp
import Mathlib.Tactic.Positivity

/-! Integer division rounded half up, the only rounding that fixed-point
arithmetic with a half-unit correction knows. -/
namespace HalfUp

/-- The quotient of `n` by `d` rounded to the nearest integer, ties upwards. -/
def halfUp (n d : Nat) : Nat := (n + d / 2) / d

variable {n m d k : Nat}

theorem le_halfUp_iff (hd : 0 < d) : k ≤ halfUp n d ↔ k * d ≤ n + d / 2 :=
  Nat.le_div_iff_mul_le hd

theorem halfUp_lt_iff (hd : 0 < d) : halfUp n d < k ↔ n + d / 2 < k * d :=
  Nat.div_lt_iff_lt_mul hd

theorem halfUp_le_iff (hd : 0 < d) : halfUp n d ≤ k ↔ n + d / 2 < (k + 1) * d := by
  rw [← Nat.lt_succ_iff, halfUp_lt_iff hd]

theorem halfUp_mul_le (n d : Nat) : halfUp n d * d ≤ n + d / 2 :=
  Nat.div_mul_le_self _ _

theorem lt_halfUp_succ_mul (n : Nat) (hd : 0 < d) : n + d / 2 < (halfUp n d + 1) * d :=
  (halfUp_le_iff hd).mp le_rfl

theorem halfUp_mono (h : n ≤ m) (d : Nat) : halfUp n d ≤ halfUp m d :=
  Nat.div_le_div_right (Nat.add_le_add_right h _)

@[simp] theorem halfUp_zero (d : Nat) : halfUp 0 d = 0 := by
  unfold halfUp
  rcases Nat.eq_zero_or_pos d with rfl | hd
  · simp
  · exact Nat.div_eq_of_lt (by omega)

@[simp] theorem halfUp_mul_self (hd : 0 < d) (k : Nat) : halfUp (k * d) d = k := by
  apply le_antisymm
  · rw [halfUp_le_iff hd]
    have : (k + 1) * d = k * d + d := by ring
    omega
  · rw [le_halfUp_iff hd]
    omega

/-- A quotient is positive as soon as half a unit is reached. -/
theorem halfUp_pos_iff (hd : 0 < d) : 0 < halfUp n d ↔ d ≤ n + d / 2 := by
  rw [Nat.lt_iff_add_one_le, le_halfUp_iff hd]
  simp

/-! ### Scaling up by an index and back -/

/-- The value of `s` units at index `i` is worth exactly `s` units again: the
half unit lost on the way is below half an index. -/
theorem halfUp_roundtrip {s i : Nat} (hd : 0 < d) (heven : 2 ∣ d) (hi : d ≤ i) :
    halfUp (halfUp (s * i) d * d) i = s := by
  have hi0 : 0 < i := by omega
  rcases Nat.eq_or_lt_of_le hi with rfl | hlt
  · rw [halfUp_mul_self hd, halfUp_mul_self hd]
  · have hle := halfUp_mul_le (s * i) d
    have hlo := lt_halfUp_succ_mul (s * i) hd
    have hsplit : (halfUp (s * i) d + 1) * d = halfUp (s * i) d * d + d := by ring
    apply le_antisymm
    · rw [halfUp_le_iff hi0]
      have : (s + 1) * i = s * i + i := by ring
      omega
    · rw [le_halfUp_iff hi0]
      omega

/-- An amount below the value of `s` units scales down to at most `s` units. -/
theorem halfUp_le_of_le_value {a s i : Nat} (hd : 0 < d) (heven : 2 ∣ d) (hi : d ≤ i)
    (ha : a ≤ halfUp (s * i) d) : halfUp (a * d) i ≤ s := by
  calc
    halfUp (a * d) i ≤ halfUp (halfUp (s * i) d * d) i :=
      halfUp_mono (Nat.mul_le_mul_right d ha) i
    _ = s := halfUp_roundtrip hd heven hi

theorem halfUp_value_pos {s i : Nat} (hd : 0 < d) (hi : d ≤ i) (hs : 0 < s) :
    0 < halfUp (s * i) d := by
  rw [halfUp_pos_iff hd]
  have : i ≤ s * i := Nat.le_mul_of_pos_left i hs
  omega

theorem le_halfUp_mul {a c : Nat} (hd : 0 < d) (hc : d ≤ c) : a ≤ halfUp (c * a) d := by
  rw [le_halfUp_iff hd]
  have : a * d ≤ c * a := by
    rw [Nat.mul_comm c a]
    exact Nat.mul_le_mul_left a hc
  omega

theorem lt_halfUp_mul {a c : Nat} (hd : 0 < d) (hc : d < c) (ha : d ≤ a) :
    a < halfUp (c * a) d := by
  rw [Nat.lt_iff_add_one_le, le_halfUp_iff hd]
  have hfactor : (d + 1) * a ≤ c * a := Nat.mul_le_mul_right a hc
  have hsplit : (d + 1) * a = a * d + a := by ring
  have hgoal : (a + 1) * d = a * d + d := by ring
  omega

/-! ### Scaling down by an index and back -/

/-- An even divisor lets the comparison be read off in halves. -/
theorem halfUp_le_iff_two_mul {a : Nat} (hd : 0 < d) (heven : 2 ∣ d) :
    halfUp n d ≤ a ↔ 2 * n < (2 * a + 1) * d := by
  rw [halfUp_le_iff hd]
  have hleft : (a + 1) * d = a * d + d := by ring
  have hright : (2 * a + 1) * d = 2 * (a * d) + d := by ring
  omega

theorem le_halfUp_iff_two_mul {a : Nat} (hd : 0 < d) :
    a ≤ halfUp n d ↔ 2 * (a * d) ≤ 2 * n + d := by
  rw [le_halfUp_iff hd]
  omega

theorem halfUp_le_halfUp {d' n' : Nat} (hd : 0 < d) (hd' : 0 < d') (h : n * d' ≤ n' * d) :
    halfUp n d ≤ halfUp n' d' := by
  have hlow : 2 * (halfUp n d * d) ≤ 2 * n + d := (le_halfUp_iff_two_mul hd).mp le_rfl
  rw [le_halfUp_iff_two_mul hd']
  apply Nat.le_of_mul_le_mul_right _ hd
  calc
    2 * (halfUp n d * d') * d = 2 * (halfUp n d * d) * d' := by ring
    _ ≤ (2 * n + d) * d' := Nat.mul_le_mul_right d' hlow
    _ = 2 * (n * d') + d' * d := by ring
    _ ≤ 2 * (n' * d) + d' * d := by omega
    _ = (2 * n' + d') * d := by ring

/-- The scaled units of an amount are worth at most half an index more. -/
theorem halfUp_scaled_le (a d i : Nat) :
    halfUp (halfUp (a * d) i * i) d ≤ a + (i / 2 + d / 2) / d := by
  rcases Nat.eq_zero_or_pos d with rfl | hd
  · simp [halfUp]
  · have hunits := halfUp_mul_le (a * d) i
    calc
      halfUp (halfUp (a * d) i * i) d ≤ halfUp (a * d + i / 2) d := halfUp_mono hunits d
      _ = (a * d + (i / 2 + d / 2)) / d := by rw [halfUp, Nat.add_assoc]
      _ = a + (i / 2 + d / 2) / d := by
        rw [Nat.add_comm (a * d), Nat.add_mul_div_right _ _ hd, Nat.add_comm]

/-- And at most half an index less. -/
theorem le_halfUp_scaled {i : Nat} (a : Nat) (hd : 0 < d) (hi : 0 < i) :
    a ≤ halfUp (halfUp (a * d) i * i) d + (i / 2 + d / 2) / d := by
  have hunits := lt_halfUp_succ_mul (a * d) hi
  have hsplit : (halfUp (a * d) i + 1) * i = halfUp (a * d) i * i + i := by ring
  have hworth := lt_halfUp_succ_mul (halfUp (a * d) i * i) hd
  have hslack := Nat.lt_div_mul_add hd (a := i / 2 + d / 2)
  apply Nat.le_of_lt_succ
  apply Nat.lt_of_mul_lt_mul_right (a := d)
  have hgoal : (halfUp (halfUp (a * d) i * i) d + (i / 2 + d / 2) / d).succ * d =
      (halfUp (halfUp (a * d) i * i) d + 1) * d + (i / 2 + d / 2) / d * d := by
    rw [Nat.succ_eq_add_one]
    ring
  omega

/-! ### Distance to the exact quotient -/

theorem halfUp_le_add_half (n : Nat) (hd : 0 < d) :
    (halfUp n d : ℚ) ≤ (n : ℚ) / d + 1 / 2 := by
  have hd' : (0 : ℚ) < d := by exact_mod_cast hd
  have h : halfUp n d * d * 2 ≤ n * 2 + d := by
    have := halfUp_mul_le n d
    omega
  have hq : (halfUp n d : ℚ) * d * 2 ≤ n * 2 + d := by exact_mod_cast h
  rw [div_add_div _ _ hd'.ne' two_ne_zero, le_div_iff₀ (by positivity)]
  linarith

theorem sub_half_le_halfUp (n : Nat) (hd : 0 < d) :
    (n : ℚ) / d - 1 / 2 ≤ halfUp n d := by
  have hd' : (0 : ℚ) < d := by exact_mod_cast hd
  have h : n * 2 ≤ halfUp n d * d * 2 + d := by
    have := lt_halfUp_succ_mul n hd
    have hsplit : (halfUp n d + 1) * d = halfUp n d * d + d := by ring
    omega
  have hq : (n : ℚ) * 2 ≤ halfUp n d * d * 2 + d := by exact_mod_cast h
  rw [div_sub_div _ _ hd'.ne' two_ne_zero, div_le_iff₀ (by positivity)]
  linarith

theorem halfUp_eq_round (n : Nat) (hd : 0 < d) : (halfUp n d : ℤ) = round ((n : ℚ) / d) := by
  have hd' : (0 : ℚ) < d := by exact_mod_cast hd
  have hup := halfUp_le_add_half n hd
  have hlow : 2 * n + d < 2 * ((halfUp n d + 1) * d) := by
    have hnext := lt_halfUp_succ_mul n hd
    omega
  have hq : (2 : ℚ) * n + d < 2 * ((halfUp n d + 1) * d) := by exact_mod_cast hlow
  rw [round_eq]
  symm
  rw [Int.floor_eq_iff]
  constructor
  · exact_mod_cast hup
  · rw [div_add_div _ _ hd'.ne' two_ne_zero, div_lt_iff₀ (by positivity)]
    push_cast
    linarith

/-- An amount that is scaled down and added moves the value by itself, up to a unit and
half an index. -/
theorem abs_value_moved {s a i : Nat} (hd : 0 < d) (hi : 0 < i) :
    |(halfUp ((s + halfUp (a * d) i) * i) d : ℚ) - (halfUp (s * i) d + a)| ≤
      1 + i / (2 * d) := by
  have hd' : (0 : ℚ) < d := by exact_mod_cast hd
  have hi' : (0 : ℚ) < i := by exact_mod_cast hi
  have hunits := halfUp_le_add_half (a * d) hi
  have hunits' := sub_half_le_halfUp (a * d) hi
  have hold := halfUp_le_add_half (s * i) hd
  have hold' := sub_half_le_halfUp (s * i) hd
  have hnew := halfUp_le_add_half ((s + halfUp (a * d) i) * i) hd
  have hnew' := sub_half_le_halfUp ((s + halfUp (a * d) i) * i) hd
  generalize halfUp (a * d) i = x at *
  push_cast at hunits hunits' hold hold' hnew hnew'
  -- half a scaled unit is worth half an index
  have hworth : (x : ℚ) * i / d ≤ a + i / (2 * d) := by
    calc
      (x : ℚ) * i / d ≤ (a * d / i + 1 / 2) * i / d := by gcongr
      _ = a + i / (2 * d) := by
        field_simp
  have hworth' : (a : ℚ) - i / (2 * d) ≤ x * i / d := by
    calc
      (a : ℚ) - i / (2 * d) = (a * d / i - 1 / 2) * i / d := by
        field_simp
      _ ≤ x * i / d := by gcongr
  have hsplit : ((s : ℚ) + x) * i / d = s * i / d + x * i / d := by ring
  rw [abs_le]
  constructor
  · linarith
  · linarith

/-- At an index of at least one unit there are at most as many scaled units as they are
worth. -/
theorem scaled_le_value {s i : Nat} (hd : 0 < d) (hi : d ≤ i) :
    (s : ℚ) ≤ halfUp (s * i) d + 1 / 2 := by
  have hd' : (0 : ℚ) < d := by exact_mod_cast hd
  have hexact := sub_half_le_halfUp (s * i) hd
  have hunits : (s : ℚ) ≤ ((s * i : Nat) : ℚ) / d := by
    rw [le_div_iff₀ hd']
    exact_mod_cast Nat.mul_le_mul_left s hi
  linarith

theorem value_grown_le {s i c : Nat} (hd : 0 < d) (hi : d ≤ i) :
    (s : ℚ) * halfUp (c * i) d / d ≤
      (halfUp (s * i) d + 1 / 2) * ((c : ℚ) / d + 1 / (2 * d)) := by
  have hd' : (0 : ℚ) < d := by exact_mod_cast hd
  have hindex := halfUp_le_add_half (c * i) hd
  have hvalue := sub_half_le_halfUp (s * i) hd
  have hunits := scaled_le_value (s := s) hd hi
  push_cast at hindex hvalue
  calc
    (s : ℚ) * halfUp (c * i) d / d ≤ s * (c * i / d + 1 / 2) / d := by gcongr
    _ = s * i / d * (c / d) + s * (1 / (2 * d)) := by
      field_simp
    _ ≤ (halfUp (s * i) d + 1 / 2) * (c / d) + (halfUp (s * i) d + 1 / 2) * (1 / (2 * d)) := by
      gcongr
      linarith
    _ = _ := by ring

theorem le_value_grown {s i c : Nat} (hd : 0 < d) (hi : d ≤ i) :
    ((halfUp (s * i) d : ℚ) - 1 / 2) * (c / d) - (halfUp (s * i) d + 1 / 2) / (2 * d) - 1 / 2 ≤
      halfUp (s * halfUp (c * i) d) d := by
  have hd' : (0 : ℚ) < d := by exact_mod_cast hd
  have hindex := sub_half_le_halfUp (c * i) hd
  have hvalue := halfUp_le_add_half (s * i) hd
  have hunits := scaled_le_value (s := s) hd hi
  have hgrown := sub_half_le_halfUp (s * halfUp (c * i) d) hd
  push_cast at hindex hvalue hgrown
  have hscaled : (s : ℚ) * (c * i / d - 1 / 2) / d ≤ s * halfUp (c * i) d / d := by gcongr
  have hsplit : (s : ℚ) * (c * i / d - 1 / 2) / d = s * i / d * (c / d) - s / (2 * d) := by
    field_simp
  have hfactor : ((halfUp (s * i) d : ℚ) - 1 / 2) * (c / d) ≤ s * i / d * (c / d) := by
    gcongr
    linarith
  have hloss : (s : ℚ) / (2 * d) ≤ (halfUp (s * i) d + 1 / 2) / (2 * d) := by gcongr
  linarith

end HalfUp
