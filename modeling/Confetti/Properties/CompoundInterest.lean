import Confetti.Library.BinomialExpansion
import Confetti.Math.MathUtils

/-! The compound interest that borrowers are charged, against true compounding by the second.
It misses the fourth and later terms of the expansion, but both powers of the rate are rounded
to the nearest unit, and rounding up is charged for every pair and triple of seconds. -/
namespace Confetti
open Outcome HalfUp BinomialExpansion

/-- What rounding to a whole number of rays adds to `n / RAY`: the missing part of the ray from
half a ray on, and less than nothing below that. -/
def roundingError (n : Nat) : ℚ :=
  if n % RAY < HALF_RAY then -((n % RAY : Nat) : ℚ) / RAY else ((RAY - n % RAY : Nat) : ℚ) / RAY

theorem halfUp_eq_add_roundingError (n : Nat) :
    (halfUp n RAY : ℚ) = (n : ℚ) / RAY + roundingError n := by
  have hray : (RAY : ℚ) ≠ 0 := by exact_mod_cast RAY_pos.ne'
  have hdivision : (n : ℚ) = RAY * ((n / RAY : Nat) : ℚ) + ((n % RAY : Nat) : ℚ) := by
    exact_mod_cast (Nat.div_add_mod n RAY).symm
  have hlt := Nat.mod_lt n RAY_pos
  have hsum : n = n / RAY * RAY + n % RAY := by
    rw [Nat.mul_comm]
    exact (Nat.div_add_mod n RAY).symm
  have heven : RAY = 2 * HALF_RAY := by decide
  have hhalf : RAY / 2 = HALF_RAY := rfl
  unfold roundingError
  by_cases hdown : n % RAY < HALF_RAY
  · have hvalue : halfUp n RAY = n / RAY := by
      apply le_antisymm
      · rw [halfUp_le_iff RAY_pos, hhalf]
        have hnext : (n / RAY + 1) * RAY = n / RAY * RAY + RAY := by ring
        omega
      · rw [le_halfUp_iff RAY_pos]
        omega
    rw [if_pos hdown, hvalue]
    field_simp
    linarith
  · have hvalue : halfUp n RAY = n / RAY + 1 := by
      apply le_antisymm
      · rw [halfUp_le_iff RAY_pos, hhalf]
        have hnext : (n / RAY + 1 + 1) * RAY = n / RAY * RAY + RAY + RAY := by ring
        omega
      · rw [le_halfUp_iff RAY_pos, hhalf]
        have hnext : (n / RAY + 1) * RAY = n / RAY * RAY + RAY := by ring
        omega
    rw [if_neg hdown, hvalue, Nat.cast_sub hlt.le]
    push_cast
    field_simp
    linarith

variable {rate last now factor : Nat}

theorem compoundedInterest_eq (h : calculateCompoundedInterest rate last now = .ok factor) :
    factor = RAY + rate / SECONDS_PER_YEAR * (now - last) +
      (now - last).choose 2 * halfUp (rate / SECONDS_PER_YEAR * (rate / SECONDS_PER_YEAR)) RAY +
      (now - last).choose 3 * halfUp (halfUp (rate / SECONDS_PER_YEAR *
        (rate / SECONDS_PER_YEAR)) RAY * (rate / SECONDS_PER_YEAR)) RAY := by
  simp only [calculateCompoundedInterest, bind_eq_ok, Uint256.sub_eq_ok] at h
  obtain ⟨_, ⟨-, rfl⟩, h⟩ := h
  by_cases hexp : now - last = 0
  · rw [if_pos hexp, pure_eq_ok] at h
    rw [hexp, ← h]
    simp
  · have hminus : (if now - last > 2 then now - last - 2 else 0) = now - last - 2 := by
      split <;> omega
    simp only [if_neg hexp, bind_eq_ok, rayMul_eq_ok, Uint256.mul_eq_ok, Uint256.add_eq_ok,
      hminus] at h
    obtain ⟨_, ⟨-, rfl⟩, _, ⟨-, rfl⟩, _, ⟨-, rfl⟩, _, ⟨-, rfl⟩, _, ⟨-, rfl⟩, _, ⟨-, rfl⟩, _,
      ⟨-, rfl⟩, _, ⟨-, rfl⟩, _, ⟨-, rfl⟩, -, rfl⟩ := h
    rw [six_mul_choose, two_mul_choose, Nat.mul_assoc 2, Nat.mul_assoc 6,
      Nat.mul_div_cancel_left _ (by decide), Nat.mul_div_cancel_left _ (by decide)]

/-- What the two roundings charge over a time, at a rate per second. -/
def roundingCharge (r t : Nat) : ℚ :=
  t.choose 2 * roundingError (r * r) +
    t.choose 3 * (roundingError (r * r) * (r / RAY) + roundingError (halfUp (r * r) RAY * r))

/-- What the cut-off expansion leaves uncharged. -/
def droppedCharge (r t : Nat) : ℚ := RAY * tail ((r : ℚ) / RAY) t

/-- The charge is the true one, plus what rounding adds, less what the expansion drops. -/
theorem compoundedInterest_error (h : calculateCompoundedInterest rate last now = .ok factor) :
    (factor : ℚ) = RAY * (1 + ((rate / SECONDS_PER_YEAR : Nat) : ℚ) / RAY) ^ (now - last) +
      roundingCharge (rate / SECONDS_PER_YEAR) (now - last) -
        droppedCharge (rate / SECONDS_PER_YEAR) (now - last) := by
  have hray : (RAY : ℚ) ≠ 0 := by exact_mod_cast RAY_pos.ne'
  have hfactor := congrArg (Nat.cast (R := ℚ)) (compoundedInterest_eq h)
  push_cast [halfUp_eq_add_roundingError] at hfactor
  rw [hfactor, one_add_pow]
  unfold roundingCharge droppedCharge
  field_simp
  ring

/-- At least simple interest is charged, and at most true compounding exactly if the two
roundings charge no more than the expansion drops. -/
theorem compounding_undercharges_iff
    (h : calculateCompoundedInterest rate last now = .ok factor) :
    RAY + rate / SECONDS_PER_YEAR * (now - last) ≤ factor ∧
      ((factor : ℚ) ≤
          RAY * (1 + ((rate / SECONDS_PER_YEAR : Nat) : ℚ) / RAY) ^ (now - last) ↔
        roundingCharge (rate / SECONDS_PER_YEAR) (now - last) ≤
          droppedCharge (rate / SECONDS_PER_YEAR) (now - last)) := by
  constructor
  · obtain ⟨-, rest, hrest, -⟩ := compoundedInterest_spec h
    omega
  · rw [compoundedInterest_error h]
    constructor
    · intro hle
      linarith
    · intro hle
      linarith

/-- Two seconds at four percent a year. -/
theorem compounding_undercharges_sample :
    ∃ factor, calculateCompoundedInterest (4 * 10 ^ 25) 0 2 = .ok factor ∧
      (factor : ℚ) ≤ RAY * (1 + ((4 * 10 ^ 25 / SECONDS_PER_YEAR : Nat) : ℚ) / RAY) ^ 2 := by
  have h : calculateCompoundedInterest (4 * 10 ^ 25) 0 2 =
      .ok (RAY + 2 * 1268391679350583460 + 1608817452) := by decide +kernel
  have hrate : 4 * 10 ^ 25 / SECONDS_PER_YEAR = 1268391679350583460 := by decide
  refine ⟨_, h, (compounding_undercharges_iff h).2.mpr ?_⟩
  rw [hrate, droppedCharge, tail_of_lt (by decide)]
  norm_num [roundingCharge, roundingError, RAY, HALF_RAY]

/-- Two seconds at three percent a year: the square of the rate per second rounds up, and no
term is dropped that would make up for it. -/
theorem compounding_overcharges :
    ∃ factor, calculateCompoundedInterest (3 * 10 ^ 25) 0 2 = .ok factor ∧
      RAY * (1 + ((3 * 10 ^ 25 / SECONDS_PER_YEAR : Nat) : ℚ) / RAY) ^ 2 < factor := by
  have h : calculateCompoundedInterest (3 * 10 ^ 25) 0 2 =
      .ok (RAY + 2 * 951293759512937595 + 904959817) := by decide +kernel
  have hrate : 3 * 10 ^ 25 / SECONDS_PER_YEAR = 951293759512937595 := by decide
  refine ⟨_, h, ?_⟩
  rw [hrate]
  norm_num [RAY]

/-! ### Which rates and times are undercharged -/

theorem roundingError_nonpos {n : Nat} (h : n % RAY < HALF_RAY) : roundingError n ≤ 0 := by
  unfold roundingError
  rw [if_pos h]
  apply div_nonpos_of_nonpos_of_nonneg
  · exact neg_nonpos.mpr (Nat.cast_nonneg _)
  · exact Nat.cast_nonneg _

theorem roundingError_pos {n : Nat} (h : HALF_RAY ≤ n % RAY) : 0 < roundingError n := by
  have hlt := Nat.mod_lt n RAY_pos
  unfold roundingError
  rw [if_neg (Nat.not_lt.mpr h)]
  apply div_pos
  · exact_mod_cast Nat.sub_pos_of_lt hlt
  · exact_mod_cast RAY_pos

theorem droppedCharge_nonneg (r t : Nat) : 0 ≤ droppedCharge r t := by
  apply mul_nonneg
  · exact Nat.cast_nonneg _
  · apply tail_nonneg
    exact div_nonneg (Nat.cast_nonneg _) (Nat.cast_nonneg _)

/-- A rate whose two products round down is undercharged at every time. -/
theorem undercharged_of_rounding_down
    (h : calculateCompoundedInterest rate last now = .ok factor)
    (hsquare : rate / SECONDS_PER_YEAR * (rate / SECONDS_PER_YEAR) % RAY < HALF_RAY)
    (hcube : halfUp (rate / SECONDS_PER_YEAR * (rate / SECONDS_PER_YEAR)) RAY *
      (rate / SECONDS_PER_YEAR) % RAY < HALF_RAY) :
    (factor : ℚ) ≤
      RAY * (1 + ((rate / SECONDS_PER_YEAR : Nat) : ℚ) / RAY) ^ (now - last) := by
  have hdropped := droppedCharge_nonneg (rate / SECONDS_PER_YEAR) (now - last)
  have hsecond := roundingError_nonpos hsquare
  have hthird := roundingError_nonpos hcube
  have hrounding : roundingCharge (rate / SECONDS_PER_YEAR) (now - last) ≤ 0 := by
    have hcarried : roundingError (rate / SECONDS_PER_YEAR * (rate / SECONDS_PER_YEAR)) *
        (((rate / SECONDS_PER_YEAR : Nat) : ℚ) / RAY) ≤ 0 :=
      mul_nonpos_of_nonpos_of_nonneg hsecond (div_nonneg (Nat.cast_nonneg _) (Nat.cast_nonneg _))
    unfold roundingCharge
    apply add_nonpos
    · exact mul_nonpos_of_nonneg_of_nonpos (Nat.cast_nonneg _) hsecond
    · exact mul_nonpos_of_nonneg_of_nonpos (Nat.cast_nonneg _) (add_nonpos hcarried hthird)
  rw [compoundedInterest_error h]
  linarith

/-- A rate whose square rounds up is overcharged after two seconds. -/
theorem overcharged_after_two_seconds
    (h : calculateCompoundedInterest rate last (last + 2) = .ok factor)
    (hsquare : HALF_RAY ≤ rate / SECONDS_PER_YEAR * (rate / SECONDS_PER_YEAR) % RAY) :
    RAY * (1 + ((rate / SECONDS_PER_YEAR : Nat) : ℚ) / RAY) ^ 2 < factor := by
  have hpos := roundingError_pos hsquare
  have htime : last + 2 - last = 2 := by omega
  have herror := compoundedInterest_error h
  rw [htime, droppedCharge, tail_of_lt (by decide), roundingCharge] at herror
  norm_num at herror
  linarith

end Confetti
