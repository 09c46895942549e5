import Mathlib.Algebra.Group.Nat.Defs
import Confetti.Library.Outcome
import Confetti.Types.Errors

/-! Checked 256-bit arithmetic on natural numbers, and the narrowing casts. -/
namespace Confetti
open Outcome

namespace Uint256

/-- `type(uint256).max` -/
def max : Nat := 2 ^ 256 - 1

def checked (value : Nat) : Except Revert Nat :=
  if value ≤ max then .ok value else .error .panic

def add (a b : Nat) : Except Revert Nat := checked (a + b)

def mul (a b : Nat) : Except Revert Nat := checked (a * b)

def pow (a b : Nat) : Except Revert Nat := checked (a ^ b)

def sub (a b : Nat) : Except Revert Nat :=
  if b ≤ a then .ok (a - b) else .error .panic

def div (a b : Nat) : Except Revert Nat :=
  if b ≠ 0 then .ok (a / b) else .error .panic

@[simp] theorem checked_eq_ok {value r : Nat} : checked value = .ok r ↔ value ≤ max ∧ value = r := by
  by_cases h : value ≤ max <;> simp [checked, h]

@[simp] theorem sub_eq_ok {a b r : Nat} : sub a b = .ok r ↔ b ≤ a ∧ a - b = r := by
  by_cases h : b ≤ a <;> simp [sub, h]

@[simp] theorem add_eq_ok {a b r : Nat} : add a b = .ok r ↔ a + b ≤ max ∧ a + b = r := checked_eq_ok

@[simp] theorem mul_eq_ok {a b r : Nat} : mul a b = .ok r ↔ a * b ≤ max ∧ a * b = r := checked_eq_ok

/-! Arithmetic only ever fails by panicking. -/

section Faults

variable {bad : Revert → Prop}

theorem avoids_checked (h : ¬bad .panic) (value : Nat) : Avoids bad (checked value) := by
  unfold checked
  exact avoids_ite (fun _ => avoids_ok _) (fun _ => avoids_error h)

theorem avoids_add (h : ¬bad .panic) (a b : Nat) : Avoids bad (add a b) := avoids_checked h _

theorem avoids_mul (h : ¬bad .panic) (a b : Nat) : Avoids bad (mul a b) := avoids_checked h _

theorem avoids_pow (h : ¬bad .panic) (a b : Nat) : Avoids bad (pow a b) := avoids_checked h _

theorem avoids_sub (h : ¬bad .panic) (a b : Nat) : Avoids bad (sub a b) :=
  avoids_ite (fun _ => avoids_ok _) (fun _ => avoids_error h)

theorem avoids_div (h : ¬bad .panic) (a b : Nat) : Avoids bad (div a b) :=
  avoids_ite (fun _ => avoids_ok _) (fun _ => avoids_error h)

end Faults

end Uint256

/-- The narrowing casts `uint128(x)`, `uint40(x)` and `uint8(x)`. -/
def uint128 (x : Nat) : Nat := x % 2 ^ 128
def uint40 (x : Nat) : Nat := x % 2 ^ 40
def uint8 (x : Nat) : Nat := x % 2 ^ 8

/-- `type(uint128).max` -/
def Uint128.max : Nat := 2 ^ 128 - 1

theorem uint128_of_le {x : Nat} (h : x ≤ Uint128.max) : uint128 x = x :=
  Nat.mod_eq_of_lt (by unfold Uint128.max at h; omega)

theorem uint40_lt (x : Nat) : uint40 x < 2 ^ 40 := Nat.mod_lt _ (by decide)

end Confetti
