import Confetti.Protocol.InterestRate

/-! The borrow rate follows the utilization: it never falls as more of a reserve is
lent out, and it stays between the strategy's base rate and its maximum. -/
namespace Confetti
open Outcome HalfUp

namespace InterestRate

theorem utilization_le_RAY (cash debt : Nat) : halfUp (debt * RAY) (cash + debt) ≤ RAY := by
  rcases Nat.eq_zero_or_pos (cash + debt) with hzero | hpos
  · simp [halfUp, hzero]
  · calc
      halfUp (debt * RAY) (cash + debt) ≤ halfUp (RAY * (cash + debt)) (cash + debt) := by
        apply halfUp_mono
        rw [Nat.mul_comm]
        exact Nat.mul_le_mul_left RAY (Nat.le_add_left debt cash)
      _ = RAY := halfUp_mul_self hpos RAY

theorem utilization_mono {cash debt cash' debt' : Nat} (hempty : cash' + debt' = 0 → debt = 0)
    (h : debt * (cash' + debt') ≤ debt' * (cash + debt)) :
    halfUp (debt * RAY) (cash + debt) ≤ halfUp (debt' * RAY) (cash' + debt') := by
  rcases Nat.eq_zero_or_pos debt with rfl | hdebt
  · simp
  · have hpos : 0 < cash' + debt' := by
      apply Nat.pos_of_ne_zero
      intro hzero
      have := hempty hzero
      omega
    apply halfUp_le_halfUp (by omega) hpos
    calc
      debt * RAY * (cash' + debt') = debt * (cash' + debt') * RAY := by ring
      _ ≤ debt' * (cash + debt) * RAY := Nat.mul_le_mul_right RAY h
      _ = debt' * RAY * (cash + debt) := by ring

variable {self : InterestRate} {u u' : Nat}

theorem rateAt_of_le (h : u ≤ self.OPTIMAL_UTILIZATION_RATE) :
    self.rateAt u = self.baseVariableBorrowRate +
      halfUp (halfUp (u * self.variableRateSlope1) RAY * RAY) self.OPTIMAL_UTILIZATION_RATE :=
  if_neg (Nat.not_lt.mpr h)

theorem rateAt_of_gt (h : self.OPTIMAL_UTILIZATION_RATE < u) :
    self.rateAt u = self.baseVariableBorrowRate + self.variableRateSlope1 +
      halfUp (self.variableRateSlope2 *
        halfUp ((u - self.OPTIMAL_UTILIZATION_RATE) * RAY) self.EXCESS_UTILIZATION_RATE) RAY :=
  if_pos h

theorem base_le_rateAt (self : InterestRate) (u : Nat) :
    self.baseVariableBorrowRate ≤ self.rateAt u := by
  unfold rateAt
  split <;> omega

/-- Where the product is a multiple of a ray, the first slope ends exactly at its height. -/
theorem rateAt_le_of_le (hopt : 0 < self.OPTIMAL_UTILIZATION_RATE)
    (hslope : RAY ∣ self.OPTIMAL_UTILIZATION_RATE * self.variableRateSlope1)
    (h : u ≤ self.OPTIMAL_UTILIZATION_RATE) :
    self.rateAt u ≤ self.baseVariableBorrowRate + self.variableRateSlope1 := by
  obtain ⟨k, hk⟩ := hslope
  have hweighted : halfUp (u * self.variableRateSlope1) RAY ≤ k := by
    calc
      halfUp (u * self.variableRateSlope1) RAY ≤ halfUp (k * RAY) RAY := by
        apply halfUp_mono
        rw [Nat.mul_comm k, ← hk]
        exact Nat.mul_le_mul_right _ h
      _ = k := halfUp_mul_self RAY_pos k
  have hheight : halfUp (halfUp (u * self.variableRateSlope1) RAY * RAY)
      self.OPTIMAL_UTILIZATION_RATE ≤ self.variableRateSlope1 := by
    calc
      _ ≤ halfUp (self.variableRateSlope1 * self.OPTIMAL_UTILIZATION_RATE)
          self.OPTIMAL_UTILIZATION_RATE := by
        apply halfUp_mono
        rw [Nat.mul_comm self.variableRateSlope1, hk, Nat.mul_comm RAY]
        exact Nat.mul_le_mul_right RAY hweighted
      _ = self.variableRateSlope1 := halfUp_mul_self hopt _
  rw [rateAt_of_le h]
  omega

theorem le_rateAt_of_gt (h : self.OPTIMAL_UTILIZATION_RATE < u) :
    self.baseVariableBorrowRate + self.variableRateSlope1 ≤ self.rateAt u := by
  rw [rateAt_of_gt h]
  exact Nat.le_add_right _ _

/-- The curve rises on both sides of the kink and across it. -/
theorem rateAt_mono (hopt : 0 < self.OPTIMAL_UTILIZATION_RATE)
    (hslope : RAY ∣ self.OPTIMAL_UTILIZATION_RATE * self.variableRateSlope1) (h : u ≤ u') :
    self.rateAt u ≤ self.rateAt u' := by
  rcases Nat.lt_or_ge self.OPTIMAL_UTILIZATION_RATE u with hbeyond | hwithin
  · rw [rateAt_of_gt hbeyond, rateAt_of_gt (hbeyond.trans_le h)]
    apply Nat.add_le_add_left
    apply halfUp_mono
    apply Nat.mul_le_mul_left
    apply halfUp_mono
    exact Nat.mul_le_mul_right RAY (Nat.sub_le_sub_right h _)
  · rcases Nat.lt_or_ge self.OPTIMAL_UTILIZATION_RATE u' with hbeyond' | hwithin'
    · exact (rateAt_le_of_le hopt hslope hwithin).trans (le_rateAt_of_gt hbeyond')
    · rw [rateAt_of_le hwithin, rateAt_of_le hwithin']
      apply Nat.add_le_add_left
      apply halfUp_mono
      apply Nat.mul_le_mul_right
      apply halfUp_mono
      exact Nat.mul_le_mul_right _ h

theorem excessRatio_le (hray : self.OPTIMAL_UTILIZATION_RATE < RAY) (hu : u ≤ RAY) :
    halfUp ((u - self.OPTIMAL_UTILIZATION_RATE) * RAY) self.EXCESS_UTILIZATION_RATE ≤ RAY := by
  have hexcess := self.excess_add_optimal
  calc
    _ ≤ halfUp (RAY * self.EXCESS_UTILIZATION_RATE) self.EXCESS_UTILIZATION_RATE := by
      apply halfUp_mono
      rw [Nat.mul_comm]
      exact Nat.mul_le_mul_left RAY (by omega)
    _ = RAY := halfUp_mul_self (by omega) RAY

/-- Fully lent out, the second slope ends exactly at its height. -/
theorem rateAt_le_of_gt (hray : self.OPTIMAL_UTILIZATION_RATE < RAY) (hu : u ≤ RAY)
    (h : self.OPTIMAL_UTILIZATION_RATE < u) :
    self.rateAt u ≤
      self.baseVariableBorrowRate + self.variableRateSlope1 + self.variableRateSlope2 := by
  have hratio := self.excessRatio_le hray hu
  have hheight : halfUp (self.variableRateSlope2 *
      halfUp ((u - self.OPTIMAL_UTILIZATION_RATE) * RAY) self.EXCESS_UTILIZATION_RATE) RAY ≤
        self.variableRateSlope2 := by
    calc
      _ ≤ halfUp (self.variableRateSlope2 * RAY) RAY :=
        halfUp_mono (Nat.mul_le_mul_left _ hratio) RAY
      _ = self.variableRateSlope2 := halfUp_mul_self RAY_pos _
  rw [rateAt_of_gt h]
  omega

theorem rateAt_le_max (hopt : 0 < self.OPTIMAL_UTILIZATION_RATE)
    (hray : self.OPTIMAL_UTILIZATION_RATE < RAY)
    (hslope : RAY ∣ self.OPTIMAL_UTILIZATION_RATE * self.variableRateSlope1) (hu : u ≤ RAY) :
    self.rateAt u ≤
      self.baseVariableBorrowRate + self.variableRateSlope1 + self.variableRateSlope2 := by
  rcases Nat.lt_or_ge self.OPTIMAL_UTILIZATION_RATE u with hbeyond | hwithin
  · exact rateAt_le_of_gt hray hu hbeyond
  · exact (rateAt_le_of_le hopt hslope hwithin).trans (Nat.le_add_right _ _)

end InterestRate

open InterestRate

/-- Between two states of a reserve the borrow rate follows the utilization, unless the second
reserve is empty of both cash and debt; and every rate is within the strategy's bounds. -/
theorem borrow_rate_follows_utilization (self : InterestRate)
    (hopt : 0 < self.OPTIMAL_UTILIZATION_RATE) (hray : self.OPTIMAL_UTILIZATION_RATE < RAY)
    (hslope : RAY ∣ self.OPTIMAL_UTILIZATION_RATE * self.variableRateSlope1) :
    (∀ cash debt factor rates cash' debt' factor' rates',
      self.calculateInterestRates cash debt factor = .ok rates →
      self.calculateInterestRates cash' debt' factor' = .ok rates' →
      (cash' + debt' = 0 → debt = 0) →
      debt * (cash' + debt') ≤ debt' * (cash + debt) → rates.2 ≤ rates'.2) ∧
    ∀ cash debt factor rates maxRate,
      self.calculateInterestRates cash debt factor = .ok rates →
      self.getMaxVariableBorrowRate = .ok maxRate →
      self.baseVariableBorrowRate ≤ rates.2 ∧ rates.2 ≤ maxRate := by
  constructor
  · intro cash debt factor rates cash' debt' factor' rates' hrates hrates' hempty h
    rw [calculateInterestRates_borrowRate hrates, calculateInterestRates_borrowRate hrates']
    exact rateAt_mono hopt hslope (utilization_mono hempty h)
  · intro cash debt factor rates maxRate hrates hmax
    obtain ⟨-, rfl⟩ := getMaxVariableBorrowRate_eq_ok.mp hmax
    rw [calculateInterestRates_borrowRate hrates]
    exact ⟨base_le_rateAt self _, rateAt_le_max hopt hray hslope (utilization_le_RAY cash debt)⟩

def sampleStrategy : InterestRate where
  OPTIMAL_UTILIZATION_RATE := 65 * 10 ^ 25
  EXCESS_UTILIZATION_RATE := 35 * 10 ^ 25
  baseVariableBorrowRate := 3 * 10 ^ 25
  variableRateSlope1 := 8 * 10 ^ 25
  variableRateSlope2 := 10 ^ 27
  excess_add_optimal := by decide

/-- From a half lent reserve to a fully lent one. -/
theorem borrow_rate_follows_utilization_sample :
    ∃ rates rates', sampleStrategy.calculateInterestRates 500 500 1000 = .ok rates ∧
      sampleStrategy.calculateInterestRates 0 1000 1000 = .ok rates' ∧ rates.2 ≤ rates'.2 ∧
        3 * 10 ^ 25 ≤ rates'.2 ∧ rates'.2 ≤ 111 * 10 ^ 25 := by
  have hrates : sampleStrategy.calculateInterestRates 500 500 1000 =
      .ok (41192307692100000000000000, 91538461538461538461538462) := by decide +kernel
  have hrates' : sampleStrategy.calculateInterestRates 0 1000 1000 =
      .ok (999 * 10 ^ 24, 111 * 10 ^ 25) := by decide +kernel
  have hmax : sampleStrategy.getMaxVariableBorrowRate = .ok (111 * 10 ^ 25) := by decide +kernel
  have h := borrow_rate_follows_utilization sampleStrategy (by decide) (by decide) (by decide)
  exact ⟨_, _, hrates, hrates',
    h.1 500 500 1000 _ 0 1000 1000 _ hrates hrates' (by decide) (by decide),
    h.2 0 1000 1000 _ _ hrates' hmax⟩

/-- An empty reserve has no utilization: against it the cross product is satisfied by any debt,
and a fully lent reserve pays more than the base rate of the empty one. -/
theorem empty_reserve_has_the_base_rate :
    ∃ rates rates', sampleStrategy.calculateInterestRates 0 1 0 = .ok rates ∧
      sampleStrategy.calculateInterestRates 0 0 0 = .ok rates' ∧
      1 * (0 + 0) ≤ 0 * (0 + 1) ∧ rates'.2 < rates.2 := by
  refine ⟨(111 * 10 ^ 25, 111 * 10 ^ 25), (0, 3 * 10 ^ 25), ?_⟩
  decide +kernel

end Confetti
