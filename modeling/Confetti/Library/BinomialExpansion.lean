import Mathlib.Algebra.BigOperators.Intervals
import Mathlib.Algebra.Order.BigOperators.Ring.Finset
import Mathlib.Data.Nat.Choose.Sum
import Mathlib.Tactic.Ring

/-! The binomial expansion cut off after its cubic term. -/
namespace BinomialExpansion
open Finset

variable {R : Type*} [CommSemiring R]

def tail (x : R) (n : Nat) : R := ∑ k ∈ Ico 4 (n + 1), n.choose k * x ^ k

theorem tail_of_lt {n : Nat} (h : n < 4) (x : R) : tail x n = 0 := by
  unfold tail
  rw [Ico_eq_empty (by omega), sum_empty]

theorem one_add_pow (x : R) (n : Nat) :
    (1 + x) ^ n = 1 + n * x + n.choose 2 * x ^ 2 + n.choose 3 * x ^ 3 + tail x n := by
  have hterms : (1 + x) ^ n = ∑ k ∈ range (n + 1), n.choose k * x ^ k := by
    rw [add_comm, add_pow]
    apply sum_congr rfl
    intro k _
    rw [one_pow, mul_one, mul_comm]
  rcases Nat.lt_or_ge n 3 with hfew | hmany
  · rw [tail_of_lt (by omega)]
    have hn : n = 0 ∨ n = 1 ∨ n = 2 := by omega
    rcases hn with rfl | rfl | rfl
    · simp
    · simp [Nat.choose]
    · simp [Nat.choose]
      ring
  · have hsplit := sum_range_add_sum_Ico (fun k => (n.choose k : R) * x ^ k)
      (show 4 ≤ n + 1 by omega)
    rw [hterms, ← hsplit]
    unfold tail
    simp [sum_range_succ]

theorem two_mul_choose (n : Nat) : n * (n - 1) = 2 * n.choose 2 := by
  have h := Nat.descFactorial_eq_factorial_mul_choose n 2
  have htwo : Nat.factorial 2 = 2 := rfl
  rw [Nat.descFactorial_succ, Nat.descFactorial_one, htwo] at h
  rw [← h, Nat.mul_comm]

theorem six_mul_choose (n : Nat) : n * (n - 1) * (n - 2) = 6 * n.choose 3 := by
  have h := Nat.descFactorial_eq_factorial_mul_choose n 3
  have hsix : Nat.factorial 3 = 6 := rfl
  rw [Nat.descFactorial_succ, Nat.descFactorial_succ, Nat.descFactorial_one, hsix] at h
  rw [← h]
  ring

theorem tail_nonneg {K : Type*} [CommRing K] [PartialOrder K] [IsOrderedRing K] {x : K}
    (hx : 0 ≤ x) (n : Nat) : 0 ≤ tail x n :=
  sum_nonneg fun k _ => mul_nonneg (Nat.cast_nonneg _) (pow_nonneg hx k)

end BinomialExpansion
