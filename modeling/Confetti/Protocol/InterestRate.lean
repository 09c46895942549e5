import Confetti.Math.PercentageMath
import Confetti.Math.WadRayMath

/-! `InterestRate`: the two-slope borrow rate of a reserve, and the share of it
that depositors receive. -/
namespace Confetti
open Outcome HalfUp

/-- The constructor sets the excess rate to what is left of a ray. -/
structure InterestRate where
  OPTIMAL_UTILIZATION_RATE : Nat
  EXCESS_UTILIZATION_RATE : Nat
  baseVariableBorrowRate : Nat
  variableRateSlope1 : Nat
  variableRateSlope2 : Nat
  excess_add_optimal : EXCESS_UTILIZATION_RATE + OPTIMAL_UTILIZATION_RATE = RAY

namespace InterestRate

def deploy (optimalUtilizationRate baseVariableBorrowRate variableRateSlope1
    variableRateSlope2 : Nat) : Except Revert InterestRate :=
  if h : optimalUtilizationRate ≤ RAY then
    .ok ⟨optimalUtilizationRate, RAY - optimalUtilizationRate, baseVariableBorrowRate,
      variableRateSlope1, variableRateSlope2, Nat.sub_add_cancel h⟩
  else .error .panic

/-- `_getOverallBorrowRate` -/
def getOverallBorrowRate (totalVariableDebt currentVariableBorrowRate : Nat) :
    Except Revert Nat :=
  let totalDebt := totalVariableDebt
  if totalDebt = 0 then pure 0 else do
    let debtInRay ← wadToRay totalVariableDebt
    let weightedVariableRate ← rayMul debtInRay currentVariableBorrowRate
    let totalInRay ← wadToRay totalDebt
    rayDiv weightedVariableRate totalInRay

variable (self : InterestRate)

def getMaxVariableBorrowRate : Except Revert Nat := do
  let upToOptimal ← Uint256.add self.baseVariableBorrowRate self.variableRateSlope1
  Uint256.add upToOptimal self.variableRateSlope2

def utilizationRate (availableLiquidity totalDebt : Nat) : Except Revert Nat :=
  if totalDebt = 0 then pure 0 else do
    let total ← Uint256.add availableLiquidity totalDebt
    rayDiv totalDebt total

def variableBorrowRate (utilizationRate : Nat) : Except Revert Nat :=
  if utilizationRate > self.OPTIMAL_UTILIZATION_RATE then do
    let excessUtilization ← Uint256.sub utilizationRate self.OPTIMAL_UTILIZATION_RATE
    let excessUtilizationRateRatio ← rayDiv excessUtilization self.EXCESS_UTILIZATION_RATE
    let upToOptimal ← Uint256.add self.baseVariableBorrowRate self.variableRateSlope1
    let beyondOptimal ← rayMul self.variableRateSlope2 excessUtilizationRateRatio
    Uint256.add upToOptimal beyondOptimal
  else do
    let weighted ← rayMul utilizationRate self.variableRateSlope1
    let slope ← rayDiv weighted self.OPTIMAL_UTILIZATION_RATE
    Uint256.add self.baseVariableBorrowRate slope

def calculateInterestRates (availableLiquidity totalVariableDebt reserveFactor : Nat) :
    Except Revert (Nat × Nat) := do
  let totalDebt := totalVariableDebt
  let utilizationRate ← utilizationRate availableLiquidity totalDebt
  let currentVariableBorrowRate ← self.variableBorrowRate utilizationRate
  let overallBorrowRate ← getOverallBorrowRate totalVariableDebt currentVariableBorrowRate
  let earned ← rayMul overallBorrowRate utilizationRate
  let depositorShare ← Uint256.sub PERCENTAGE_FACTOR reserveFactor
  let currentLiquidityRate ← percentMul earned depositorShare
  pure (currentLiquidityRate, currentVariableBorrowRate)

/-- The overload the pool calls, with the cToken's cash before the movement. -/
def calculateInterestRatesAfter (cash liquidityAdded liquidityTaken totalVariableDebt
    reserveFactor : Nat) : Except Revert (Nat × Nat) := do
  let increased ← Uint256.add cash liquidityAdded
  let availableLiquidity ← Uint256.sub increased liquidityTaken
  self.calculateInterestRates availableLiquidity totalVariableDebt reserveFactor

def rateAt (utilizationRate : Nat) : Nat :=
  if utilizationRate > self.OPTIMAL_UTILIZATION_RATE then
    self.baseVariableBorrowRate + self.variableRateSlope1 +
      halfUp (self.variableRateSlope2 * halfUp
        ((utilizationRate - self.OPTIMAL_UTILIZATION_RATE) * RAY) self.EXCESS_UTILIZATION_RATE) RAY
  else
    self.baseVariableBorrowRate +
      halfUp (halfUp (utilizationRate * self.variableRateSlope1) RAY * RAY)
        self.OPTIMAL_UTILIZATION_RATE

variable {self} {cash debt factor : Nat} {rates : Nat × Nat}

theorem getMaxVariableBorrowRate_eq_ok {rate : Nat} :
    self.getMaxVariableBorrowRate = .ok rate ↔
      self.baseVariableBorrowRate + self.variableRateSlope1 + self.variableRateSlope2 ≤
          Uint256.max ∧
        self.baseVariableBorrowRate + self.variableRateSlope1 + self.variableRateSlope2 =
          rate := by
  simp only [getMaxVariableBorrowRate, bind_eq_ok, Uint256.add_eq_ok]
  constructor
  · rintro ⟨_, ⟨-, rfl⟩, hmax, hrate⟩
    exact ⟨hmax, hrate⟩
  · rintro ⟨hmax, hrate⟩
    exact ⟨_, ⟨by omega, rfl⟩, hmax, hrate⟩

theorem utilizationRate_spec {utilization : Nat}
    (h : utilizationRate cash debt = .ok utilization) :
    utilization = halfUp (debt * RAY) (cash + debt) := by
  unfold utilizationRate at h
  by_cases hdebt : debt = 0
  · rw [if_pos hdebt, pure_eq_ok] at h
    rw [hdebt, Nat.zero_mul, halfUp_zero, h]
  · simp only [if_neg hdebt, bind_eq_ok, Uint256.add_eq_ok, rayDiv_eq_ok] at h
    obtain ⟨_, ⟨-, rfl⟩, -, -, hutilization⟩ := h
    exact hutilization.symm

theorem variableBorrowRate_spec {utilization rate : Nat}
    (h : self.variableBorrowRate utilization = .ok rate) : rate = self.rateAt utilization := by
  unfold variableBorrowRate at h
  unfold rateAt
  by_cases hkink : utilization > self.OPTIMAL_UTILIZATION_RATE
  · simp only [if_pos hkink, bind_eq_ok, Uint256.sub_eq_ok, rayDiv_eq_ok, Uint256.add_eq_ok,
      rayMul_eq_ok] at h
    obtain ⟨_, ⟨-, rfl⟩, _, ⟨-, -, rfl⟩, _, ⟨-, rfl⟩, _, ⟨-, rfl⟩, -, hrate⟩ := h
    rw [if_pos hkink, hrate]
  · simp only [if_neg hkink, bind_eq_ok, rayDiv_eq_ok, Uint256.add_eq_ok, rayMul_eq_ok] at h
    obtain ⟨_, ⟨-, rfl⟩, _, ⟨-, -, rfl⟩, -, hrate⟩ := h
    rw [if_neg hkink, hrate]

theorem calculateInterestRates_borrowRate
    (h : self.calculateInterestRates cash debt factor = .ok rates) :
    rates.2 = self.rateAt (halfUp (debt * RAY) (cash + debt)) := by
  simp only [calculateInterestRates, bind_eq_ok, pure_eq_ok] at h
  obtain ⟨_, hutilization, _, hrate, _, -, _, -, _, -, _, -, rfl⟩ := h
  rw [← utilizationRate_spec hutilization]
  exact variableBorrowRate_spec hrate

theorem calculateInterestRates_spec
    (h : self.calculateInterestRates cash debt factor = .ok rates) :
    ∃ utilization overall, utilizationRate cash debt = .ok utilization ∧
      getOverallBorrowRate debt rates.2 = .ok overall ∧ factor ≤ PERCENTAGE_FACTOR ∧
        rates.1 = halfUp (halfUp (overall * utilization) RAY * (PERCENTAGE_FACTOR - factor))
          PERCENTAGE_FACTOR := by
  simp only [calculateInterestRates, bind_eq_ok, rayMul_eq_ok, Uint256.sub_eq_ok,
    percentMul_eq_ok, pure_eq_ok] at h
  obtain ⟨utilization, hutilization, _, -, overall, hoverall, _, ⟨-, rfl⟩, _, ⟨hfactor, rfl⟩, _,
    ⟨-, rfl⟩, rfl⟩ := h
  exact ⟨utilization, overall, hutilization, hoverall, hfactor, rfl⟩

theorem liquidityRate_of_no_debt (h : self.calculateInterestRates cash 0 factor = .ok rates) :
    rates.1 = 0 := by
  obtain ⟨utilization, overall, hutilization, -, -, hrate⟩ := calculateInterestRates_spec h
  obtain rfl : 0 = utilization := pure_eq_ok.mp hutilization
  simpa using hrate

section Faults

variable (self) {bad : Revert → Prop} (hpanic : ¬bad .panic) (herror : ∀ e, ¬bad (.error e))
include hpanic herror

theorem avoids_getOverallBorrowRate (debt rate : Nat) :
    Avoids bad (getOverallBorrowRate debt rate) := by
  refine avoids_ite (fun _ => avoids_pure _) fun _ => ?_
  refine (avoids_wadToRay hpanic herror _).bind fun _ _ => ?_
  refine (avoids_rayMul hpanic herror _ _).bind fun _ _ => ?_
  exact (avoids_wadToRay hpanic herror _).bind fun _ _ => avoids_rayDiv hpanic herror _ _

theorem avoids_utilizationRate (cash debt : Nat) : Avoids bad (utilizationRate cash debt) :=
  avoids_ite (fun _ => avoids_pure _) fun _ =>
    (Uint256.avoids_add hpanic _ _).bind fun _ _ => avoids_rayDiv hpanic herror _ _

theorem avoids_variableBorrowRate (rate : Nat) : Avoids bad (self.variableBorrowRate rate) := by
  refine avoids_ite (fun _ => ?_) fun _ => ?_
  · refine (Uint256.avoids_sub hpanic _ _).bind fun _ _ => ?_
    refine (avoids_rayDiv hpanic herror _ _).bind fun _ _ => ?_
    refine (Uint256.avoids_add hpanic _ _).bind fun _ _ => ?_
    exact (avoids_rayMul hpanic herror _ _).bind fun _ _ => Uint256.avoids_add hpanic _ _
  · refine (avoids_rayMul hpanic herror _ _).bind fun _ _ => ?_
    exact (avoids_rayDiv hpanic herror _ _).bind fun _ _ => Uint256.avoids_add hpanic _ _

theorem avoids_calculateInterestRates (cash debt factor : Nat) :
    Avoids bad (self.calculateInterestRates cash debt factor) := by
  refine (avoids_utilizationRate hpanic herror _ _).bind fun _ _ => ?_
  refine (avoids_variableBorrowRate self hpanic herror _).bind fun _ _ => ?_
  refine (avoids_getOverallBorrowRate hpanic herror _ _).bind fun _ _ => ?_
  refine (avoids_rayMul hpanic herror _ _).bind fun _ _ => ?_
  refine (Uint256.avoids_sub hpanic _ _).bind fun _ _ => ?_
  exact (avoids_percentMul hpanic herror _ _).bind fun _ _ => avoids_pure _

theorem avoids_calculateInterestRatesAfter (cash added taken debt factor : Nat) :
    Avoids bad (self.calculateInterestRatesAfter cash added taken debt factor) := by
  refine (Uint256.avoids_add hpanic _ _).bind fun _ _ => ?_
  refine (Uint256.avoids_sub hpanic _ _).bind fun _ _ => ?_
  exact avoids_calculateInterestRates self hpanic herror _ _ _

end Faults

end InterestRate

end Confetti
