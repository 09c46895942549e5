import Confetti.Math.PercentageMath
import Confetti.Math.WadRayMath

/-! The fixed-point primitives round to the nearest integer, stop exactly where a word
would overflow, and undo each other from one ray on. -/
namespace Confetti
open Outcome HalfUp

/-- A product of two numbers with one unit, rounded with ties upwards. -/
structure RoundsProduct (unit : Nat) (mul : Nat → Nat → Except Revert Nat) (a b : Nat) : Prop where
  reverts : (∃ e, mul a b = .error e) ↔ Uint256.max < a * b + unit / 2
  nearest : ∀ r, mul a b = .ok r → (r : ℤ) = round ((a * b : ℚ) / unit)
  panics : mul a b ≠ .error .panic

/-- A quotient of two numbers with one unit, rounded with ties upwards. -/
structure RoundsQuotient (unit : Nat) (div : Nat → Nat → Except Revert Nat) (a b : Nat) :
    Prop where
  reverts : (∃ e, div a b = .error e) ↔ b = 0 ∨ Uint256.max < a * unit + b / 2
  nearest : ∀ r, div a b = .ok r → (r : ℤ) = round ((a * unit : ℚ) / b)
  panics : div a b ≠ .error .panic

theorem mulHalfUp_rounds {unit : Nat} (hunit : 0 < unit) (hmax : unit ≤ Uint256.max) (a b : Nat) :
    RoundsProduct unit (mulHalfUp unit) a b := by
  rw [show mulHalfUp unit = fun a b => _ from funext₂ (mulHalfUp_eq hunit hmax)]
  refine ⟨?_, ?_, ?_⟩
  · by_cases h : a * b + unit / 2 ≤ Uint256.max
    · simp [h]
    · simp [h, Nat.lt_of_not_le h]
  · intro r hr
    by_cases h : a * b + unit / 2 ≤ Uint256.max
    · rw [if_pos h] at hr
      obtain rfl := Except.ok.inj hr
      rw [halfUp_eq_round _ hunit, Nat.cast_mul]
    · rw [if_neg h] at hr
      cases hr
  · by_cases h : a * b + unit / 2 ≤ Uint256.max
    · simp [h]
    · simp [h]

theorem divHalfUp_rounds {unit b : Nat} (hunit : 0 < unit) (hb : b ≤ Uint256.max) (a : Nat) :
    RoundsQuotient unit (divHalfUp unit) a b := by
  have heq := divHalfUp_eq hunit hb a
  by_cases hzero : b = 0
  · rw [if_pos hzero] at heq
    refine ⟨?_, ?_, ?_⟩
    · exact ⟨fun _ => .inl hzero, fun _ => ⟨_, heq⟩⟩
    · intro r hr
      rw [heq] at hr
      cases hr
    · simp [heq]
  · rw [if_neg hzero] at heq
    by_cases h : a * unit + b / 2 ≤ Uint256.max
    · rw [if_pos h] at heq
      refine ⟨?_, ?_, ?_⟩
      · simp [heq, hzero, Nat.not_lt.mpr h]
      · intro r hr
        rw [heq] at hr
        obtain rfl := Except.ok.inj hr
        rw [halfUp_eq_round _ (Nat.pos_of_ne_zero hzero), Nat.cast_mul]
      · simp [heq]
    · rw [if_neg h] at heq
      refine ⟨?_, ?_, ?_⟩
      · simp [heq, Nat.lt_of_not_le h]
      · intro r hr
        rw [heq] at hr
        cases hr
      · simp [heq]

theorem fixed_point_exact (a : Nat) {b : Nat} (hb : b < 2 ^ 256) :
    RoundsProduct WAD wadMul a b ∧ RoundsProduct RAY rayMul a b ∧
      RoundsProduct PERCENTAGE_FACTOR percentMul a b ∧
    RoundsQuotient WAD wadDiv a b ∧ RoundsQuotient RAY rayDiv a b ∧
      RoundsQuotient PERCENTAGE_FACTOR percentDiv a b := by
  have hfits : b ≤ Uint256.max := Nat.le_sub_one_of_lt hb
  refine ⟨?_, ?_, ?_, ?_, ?_, ?_⟩
  · exact mulHalfUp_rounds (by decide) (by decide) a b
  · exact mulHalfUp_rounds RAY_pos RAY_le_max a b
  · exact mulHalfUp_rounds (by decide) (by decide) a b
  · exact divHalfUp_rounds (by decide) hfits a
  · exact divHalfUp_rounds RAY_pos hfits a
  · exact divHalfUp_rounds (by decide) hfits a

/-- A tie between two odd numbers of half rays goes up. -/
theorem fixed_point_exact_tie : rayMul 3 HALF_RAY = .ok 2 ∧
    RoundsProduct RAY rayMul 3 HALF_RAY :=
  ⟨by decide, (fixed_point_exact 3 (by decide)).2.1⟩

/-! ### Scaling and back -/

theorem rayMul_mono {a a' b r' : Nat} (hle : a ≤ a') (h : rayMul a' b = .ok r') :
    ∃ r, rayMul a b = .ok r ∧ r ≤ r' := by
  obtain ⟨-, rfl⟩ := rayMul_eq_ok.mp h
  exact ⟨_, rayMul_of_le hle h, halfUp_mono (Nat.mul_le_mul_right b hle) RAY⟩

theorem rayDiv_mono {a a' b r' : Nat} (hle : a ≤ a') (h : rayDiv a' b = .ok r') :
    ∃ r, rayDiv a b = .ok r ∧ r ≤ r' := by
  obtain ⟨hb, hmax, rfl⟩ := rayDiv_eq_ok.mp h
  have hproduct := Nat.mul_le_mul_right RAY hle
  exact ⟨_, rayDiv_eq_ok.mpr ⟨hb, by omega, rfl⟩, halfUp_mono hproduct b⟩

theorem scaling_undone {s idx : Nat} (hidx : RAY ≤ idx) :
    (∀ v r, rayMul s idx = .ok v → rayDiv v idx = .ok r → r = s) ∧
    (∀ a a' b r', a ≤ a' → rayMul a' b = .ok r' → ∃ r, rayMul a b = .ok r ∧ r ≤ r') ∧
    (∀ a a' b r', a ≤ a' → rayDiv a' b = .ok r' → ∃ r, rayDiv a b = .ok r ∧ r ≤ r') ∧
    ∀ v a r, rayMul s idx = .ok v → a ≤ v → rayDiv a idx = .ok r → r ≤ s := by
  refine ⟨fun v r => rayDiv_of_rayMul hidx, fun a a' b r' => rayMul_mono,
    fun a a' b r' => rayDiv_mono, fun v a r hmul hle hdiv => ?_⟩
  exact rayDiv_le_of_le_rayMul hidx hmul hle hdiv

/-- Five units at an odd index are worth eight, and eight is five units again. -/
theorem scaling_undone_odd :
    rayMul 5 (15 * 10 ^ 26 + 1) = .ok 8 ∧ rayDiv 8 (15 * 10 ^ 26 + 1) = .ok 5 := by
  have hmul : rayMul 5 (15 * 10 ^ 26 + 1) = .ok 8 := by decide
  obtain ⟨r, hdiv⟩ : ∃ r, rayDiv 8 (15 * 10 ^ 26 + 1) = .ok r := ⟨_, rfl⟩
  have hback : r = 5 := (scaling_undone (by decide)).1 8 r hmul hdiv
  rw [hback] at hdiv
  exact ⟨hmul, hdiv⟩

end Confetti
