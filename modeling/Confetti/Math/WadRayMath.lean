import Confetti.Math.FixedPoint

/-! `WadRayMath`: wads have 18 decimals, rays 27. -/
namespace Confetti
open Outcome HalfUp

def WAD : Nat := 10 ^ 18
def RAY : Nat := 10 ^ 27
def HALF_RAY : Nat := RAY / 2
def WAD_RAY_RATIO : Nat := 10 ^ 9

def wadMul (a b : Nat) : Except Revert Nat := mulHalfUp WAD a b

def wadDiv (a b : Nat) : Except Revert Nat := divHalfUp WAD a b

def rayMul (a b : Nat) : Except Revert Nat := mulHalfUp RAY a b

def rayDiv (a b : Nat) : Except Revert Nat := divHalfUp RAY a b

/-- The product is checked before the quotient is compared. -/
def wadToRay (a : Nat) : Except Revert Nat := do
  let result ← Uint256.mul a WAD_RAY_RATIO
  require (result / WAD_RAY_RATIO = a) (.error .MATH_MULTIPLICATION_OVERFLOW)
  pure result

theorem RAY_pos : 0 < RAY := by decide

theorem RAY_le_max : RAY ≤ Uint256.max := by decide

theorem RAY_le_uint128 : RAY ≤ Uint128.max := by decide

theorem two_dvd_RAY : 2 ∣ RAY := by decide

variable {a b r s idx : Nat}

theorem rayMul_eq_ok :
    rayMul a b = .ok r ↔ a * b + HALF_RAY ≤ Uint256.max ∧ halfUp (a * b) RAY = r :=
  mulHalfUp_eq_ok RAY_pos RAY_le_max

theorem rayDiv_eq_ok :
    rayDiv a b = .ok r ↔ b ≠ 0 ∧ a * RAY + b / 2 ≤ Uint256.max ∧ halfUp (a * RAY) b = r :=
  divHalfUp_eq_ok RAY_pos

theorem wadDiv_eq_ok :
    wadDiv a b = .ok r ↔ b ≠ 0 ∧ a * WAD + b / 2 ≤ Uint256.max ∧ halfUp (a * WAD) b = r :=
  divHalfUp_eq_ok (by decide)

theorem wadToRay_eq_ok :
    wadToRay a = .ok r ↔ a * WAD_RAY_RATIO ≤ Uint256.max ∧ a * WAD_RAY_RATIO = r := by
  simp only [wadToRay, bind_eq_ok, Uint256.mul_eq_ok, require_eq_ok, exists_const, pure_eq_ok]
  constructor
  · rintro ⟨p, ⟨hp, rfl⟩, -, h⟩
    exact ⟨hp, h⟩
  · rintro ⟨hp, rfl⟩
    exact ⟨_, ⟨hp, rfl⟩, Nat.mul_div_cancel a (by decide), rfl⟩

@[simp] theorem rayMul_zero_left (b : Nat) : rayMul 0 b = .ok 0 := by
  simp [rayMul, mulHalfUp, pure, Except.pure]

/-- Scaling is undone exactly: dividing a position's value by the index it was
multiplied with gives the position back. -/
theorem rayDiv_of_rayMul (hidx : RAY ≤ idx) (hmul : rayMul s idx = .ok a)
    (hdiv : rayDiv a idx = .ok r) : r = s := by
  obtain ⟨-, rfl⟩ := rayMul_eq_ok.mp hmul
  obtain ⟨-, -, rfl⟩ := rayDiv_eq_ok.mp hdiv
  exact halfUp_roundtrip RAY_pos two_dvd_RAY hidx

theorem rayDiv_le_of_le_rayMul {v : Nat} (hidx : RAY ≤ idx) (hmul : rayMul s idx = .ok v)
    (ha : a ≤ v) (hdiv : rayDiv a idx = .ok r) : r ≤ s := by
  obtain ⟨-, rfl⟩ := rayMul_eq_ok.mp hmul
  obtain ⟨-, -, rfl⟩ := rayDiv_eq_ok.mp hdiv
  exact halfUp_le_of_le_value RAY_pos two_dvd_RAY hidx ha

theorem rayMul_pos (hidx : RAY ≤ idx) (hs : 0 < s) (hmul : rayMul s idx = .ok a) : 0 < a := by
  obtain ⟨-, rfl⟩ := rayMul_eq_ok.mp hmul
  exact halfUp_value_pos RAY_pos hidx hs

theorem le_rayMul (hfactor : RAY ≤ a) (hmul : rayMul a b = .ok r) : b ≤ r := by
  obtain ⟨-, rfl⟩ := rayMul_eq_ok.mp hmul
  exact le_halfUp_mul RAY_pos hfactor

theorem lt_rayMul (hfactor : RAY < a) (hb : RAY ≤ b) (hmul : rayMul a b = .ok r) : b < r := by
  obtain ⟨-, rfl⟩ := rayMul_eq_ok.mp hmul
  exact lt_halfUp_mul RAY_pos hfactor hb

theorem rayMul_RAY_of_le (hb : b ≤ Uint128.max) : rayMul RAY b = .ok b := by
  rw [rayMul_eq_ok]
  constructor
  · have hproduct : RAY * b ≤ RAY * Uint128.max := Nat.mul_le_mul_left RAY hb
    have hroom : RAY * Uint128.max + HALF_RAY ≤ Uint256.max := by decide
    omega
  · rw [Nat.mul_comm, halfUp_mul_self RAY_pos]

theorem rayMul_RAY (hmul : rayMul RAY b = .ok r) : r = b := by
  obtain ⟨-, rfl⟩ := rayMul_eq_ok.mp hmul
  rw [Nat.mul_comm, halfUp_mul_self RAY_pos]

theorem rayMul_of_le (hle : a ≤ s) (hmul : rayMul s idx = .ok r) :
    rayMul a idx = .ok (halfUp (a * idx) RAY) := by
  obtain ⟨hmax, -⟩ := rayMul_eq_ok.mp hmul
  refine rayMul_eq_ok.mpr ⟨?_, rfl⟩
  have hproduct := Nat.mul_le_mul_right idx hle
  omega

section Faults

variable {bad : Revert → Prop}

theorem avoids_rayMul (hpanic : ¬bad .panic) (herror : ∀ e, ¬bad (.error e)) (a b : Nat) :
    Avoids bad (rayMul a b) := avoids_mulHalfUp hpanic herror _ _ _

theorem avoids_rayDiv (hpanic : ¬bad .panic) (herror : ∀ e, ¬bad (.error e)) (a b : Nat) :
    Avoids bad (rayDiv a b) := avoids_divHalfUp hpanic herror _ _ _

theorem avoids_wadToRay (hpanic : ¬bad .panic) (herror : ∀ e, ¬bad (.error e)) (a : Nat) :
    Avoids bad (wadToRay a) :=
  (Uint256.avoids_mul hpanic _ _).bind fun _ _ =>
    (avoids_require fun _ => herror _).bind fun _ _ => avoids_pure _

end Faults

end Confetti
