import Confetti.Library.HalfUp
import Confetti.Types.Uint256

/-! The six guarded primitives of `WadRayMath` and `PercentageMath` are two
shapes at three units. Each shape has one specification. -/
namespace Confetti
open Outcome HalfUp

/-- `a * b / unit` rounded half up, guarded by a division of the maximum. -/
def mulHalfUp (unit a b : Nat) : Except Revert Nat :=
  if a = 0 ∨ b = 0 then pure 0 else do
    require (a ≤ (Uint256.max - unit / 2) / b) (.error .MATH_MULTIPLICATION_OVERFLOW)
    let product ← Uint256.mul a b
    let sum ← Uint256.add product (unit / 2)
    pure (sum / unit)

/-- `a * unit / b` rounded half up. -/
def divHalfUp (unit a b : Nat) : Except Revert Nat := do
  require (b ≠ 0) (.error .MATH_DIVISION_BY_ZERO)
  let half := b / 2
  require (a ≤ (Uint256.max - half) / unit) (.error .MATH_MULTIPLICATION_OVERFLOW)
  let product ← Uint256.mul a unit
  let sum ← Uint256.add product half
  pure (sum / b)

variable {unit a b r : Nat}

/-- The guard rejects exactly the products whose rounding would overflow. -/
theorem mulHalfUp_eq (hunit : 0 < unit) (hmax : unit ≤ Uint256.max) (a b : Nat) :
    mulHalfUp unit a b =
      if a * b + unit / 2 ≤ Uint256.max then .ok (halfUp (a * b) unit)
      else .error (.error .MATH_MULTIPLICATION_OVERFLOW) := by
  unfold mulHalfUp
  by_cases hzero : a = 0 ∨ b = 0
  · have hab : a * b = 0 := by rcases hzero with rfl | rfl <;> simp
    rw [if_pos hzero, hab, if_pos (by omega), halfUp_zero]
    rfl
  · obtain ⟨-, hb⟩ := not_or.mp hzero
    have hguard : a ≤ (Uint256.max - unit / 2) / b ↔ a * b + unit / 2 ≤ Uint256.max := by
      rw [Nat.le_div_iff_mul_le (Nat.pos_of_ne_zero hb)]
      omega
    rw [if_neg hzero]
    by_cases h : a * b + unit / 2 ≤ Uint256.max
    · have hmul : Uint256.mul a b = .ok (a * b) := Uint256.mul_eq_ok.mpr ⟨by omega, rfl⟩
      have hadd : Uint256.add (a * b) (unit / 2) = .ok (a * b + unit / 2) :=
        Uint256.add_eq_ok.mpr ⟨h, rfl⟩
      rw [require_of (hguard.mpr h), if_pos h, ok_bind, hmul, ok_bind, hadd, ok_bind]
      rfl
    · rw [if_neg h, require, if_neg (fun hc => h (hguard.mp hc)), error_bind]

theorem mulHalfUp_eq_ok (hunit : 0 < unit) (hmax : unit ≤ Uint256.max) :
    mulHalfUp unit a b = .ok r ↔ a * b + unit / 2 ≤ Uint256.max ∧ halfUp (a * b) unit = r := by
  rw [mulHalfUp_eq hunit hmax]
  split <;> simp_all

/-- And exactly the quotients whose rounding would, beside those by zero. -/
theorem divHalfUp_eq (hunit : 0 < unit) (hb : b ≤ Uint256.max) (a : Nat) :
    divHalfUp unit a b =
      if b = 0 then .error (.error .MATH_DIVISION_BY_ZERO)
      else if a * unit + b / 2 ≤ Uint256.max then .ok (halfUp (a * unit) b)
      else .error (.error .MATH_MULTIPLICATION_OVERFLOW) := by
  unfold divHalfUp
  by_cases hzero : b = 0
  · rw [if_pos hzero, require, if_neg (not_not.mpr hzero), error_bind]
  · have hguard : a ≤ (Uint256.max - b / 2) / unit ↔ a * unit + b / 2 ≤ Uint256.max := by
      rw [Nat.le_div_iff_mul_le hunit]
      omega
    rw [if_neg hzero, require_of hzero, ok_bind]
    by_cases h : a * unit + b / 2 ≤ Uint256.max
    · have hmul : Uint256.mul a unit = .ok (a * unit) := Uint256.mul_eq_ok.mpr ⟨by omega, rfl⟩
      have hadd : Uint256.add (a * unit) (b / 2) = .ok (a * unit + b / 2) :=
        Uint256.add_eq_ok.mpr ⟨h, rfl⟩
      simp only [require_of (hguard.mpr h), ok_bind, hmul, hadd]
      rw [if_pos h]
      rfl
    · rw [if_neg h]
      simp only [require, if_neg (fun hc => h (hguard.mp hc)), error_bind]

theorem divHalfUp_eq_ok (hunit : 0 < unit) :
    divHalfUp unit a b = .ok r ↔
      b ≠ 0 ∧ a * unit + b / 2 ≤ Uint256.max ∧ halfUp (a * unit) b = r := by
  simp only [divHalfUp, bind_eq_ok, require_eq_ok, Uint256.mul_eq_ok, Uint256.add_eq_ok,
    pure_eq_ok, exists_const]
  constructor
  · rintro ⟨hb, -, p, ⟨hmul, rfl⟩, q, ⟨hadd, rfl⟩, rfl⟩
    exact ⟨hb, hadd, rfl⟩
  · rintro ⟨hb, hadd, rfl⟩
    refine ⟨hb, ?_, _, ⟨by omega, rfl⟩, _, ⟨hadd, rfl⟩, rfl⟩
    rw [Nat.le_div_iff_mul_le hunit]
    omega

section Faults

variable {bad : Revert → Prop}

theorem avoids_mulHalfUp (hpanic : ¬bad .panic) (herror : ∀ e, ¬bad (.error e)) (unit a b : Nat) :
    Avoids bad (mulHalfUp unit a b) :=
  avoids_ite (fun _ => avoids_pure _) fun _ =>
    (avoids_require fun _ => herror _).bind fun _ _ =>
      (Uint256.avoids_mul hpanic _ _).bind fun _ _ =>
        (Uint256.avoids_add hpanic _ _).bind fun _ _ => avoids_pure _

theorem avoids_divHalfUp (hpanic : ¬bad .panic) (herror : ∀ e, ¬bad (.error e)) (unit a b : Nat) :
    Avoids bad (divHalfUp unit a b) :=
  (avoids_require fun _ => herror _).bind fun _ _ =>
    (avoids_require fun _ => herror _).bind fun _ _ =>
      (Uint256.avoids_mul hpanic _ _).bind fun _ _ =>
        (Uint256.avoids_add hpanic _ _).bind fun _ _ => avoids_pure _

end Faults

end Confetti
