import Confetti.Math.MathUtils
import Confetti.Types.DataTypes

/-! The two cumulated indexes of a reserve: as the views compute them, and as an
update of the reserve stores them. -/
namespace Confetti
open Outcome HalfUp

namespace ReserveLogic

def getNormalizedIncome (reserve : ReserveData) (now : Nat) : Except Revert Nat := do
  let timestamp := reserve.lastUpdateTimestamp
  if timestamp = uint40 now then pure reserve.liquidityIndex
  else do
    let interest ← calculateLinearInterest reserve.currentLiquidityRate timestamp now
    rayMul interest reserve.liquidityIndex

def getNormalizedDebt (reserve : ReserveData) (now : Nat) : Except Revert Nat := do
  let timestamp := reserve.lastUpdateTimestamp
  if timestamp = uint40 now then pure reserve.variableBorrowIndex
  else do
    let interest ← calculateCompoundedInterest reserve.currentVariableBorrowRate timestamp now
    rayMul interest reserve.variableBorrowIndex

/-- Cumulate the interest of a period into an index that has to fit its slot. -/
def accumulate (interest : Except Revert Nat) (index : Nat) (overflow : Errors) :
    Except Revert Nat := do
  let cumulated ← interest
  let newIndex ← rayMul cumulated index
  require (newIndex ≤ Uint128.max) (.error overflow)
  pure newIndex

/-- `_updateIndexes`: the updated reserve and both new indexes. -/
def updateIndexes (reserve : ReserveData)
    (scaledVariableDebt liquidityIndex variableBorrowIndex timestamp now : Nat) :
    Except Revert (ReserveData × Nat × Nat) :=
  let currentLiquidityRate := reserve.currentLiquidityRate
  -- only cumulating if there is any income being produced
  if currentLiquidityRate > 0 then do
    let newLiquidityIndex ← accumulate
      (calculateLinearInterest currentLiquidityRate timestamp now) liquidityIndex
      .RL_LIQUIDITY_INDEX_OVERFLOW
    let reserve := { reserve with liquidityIndex := uint128 newLiquidityIndex }
    if scaledVariableDebt ≠ 0 then do
      let newVariableBorrowIndex ← accumulate
        (calculateCompoundedInterest reserve.currentVariableBorrowRate timestamp now)
        variableBorrowIndex .RL_VARIABLE_BORROW_INDEX_OVERFLOW
      let reserve := { reserve with
        variableBorrowIndex := uint128 newVariableBorrowIndex
        lastUpdateTimestamp := uint40 now }
      pure (reserve, newLiquidityIndex, newVariableBorrowIndex)
    else
      pure ({ reserve with lastUpdateTimestamp := uint40 now }, newLiquidityIndex,
        variableBorrowIndex)
  else
    pure ({ reserve with lastUpdateTimestamp := uint40 now }, liquidityIndex, variableBorrowIndex)

def updatedLiquidityIndex (reserve : ReserveData) (now : Nat) : Except Revert Nat :=
  if reserve.currentLiquidityRate > 0 then
    accumulate (calculateLinearInterest reserve.currentLiquidityRate reserve.lastUpdateTimestamp now)
      reserve.liquidityIndex .RL_LIQUIDITY_INDEX_OVERFLOW
  else pure reserve.liquidityIndex

/-- The debt index moves only when the depositors' index does. -/
def updatedBorrowIndex (reserve : ReserveData) (scaledVariableDebt now : Nat) :
    Except Revert Nat :=
  if reserve.currentLiquidityRate > 0 ∧ scaledVariableDebt ≠ 0 then
    accumulate (calculateCompoundedInterest reserve.currentVariableBorrowRate
      reserve.lastUpdateTimestamp now) reserve.variableBorrowIndex .RL_VARIABLE_BORROW_INDEX_OVERFLOW
  else pure reserve.variableBorrowIndex

variable {interest : Except Revert Nat} {index newIndex now scaled li vi : Nat} {overflow : Errors}
  {reserve reserve' : ReserveData}

theorem accumulate_eq_ok :
    accumulate interest index overflow = .ok newIndex ↔
      ∃ factor, interest = .ok factor ∧ rayMul factor index = .ok newIndex ∧
        newIndex ≤ Uint128.max := by
  simp only [accumulate, bind_eq_ok, require_eq_ok, exists_const, pure_eq_ok]
  constructor
  · rintro ⟨factor, hfactor, _, hmul, hmax, rfl⟩
    exact ⟨factor, hfactor, hmul, hmax⟩
  · rintro ⟨factor, hfactor, hmul, hmax⟩
    exact ⟨factor, hfactor, _, hmul, hmax, rfl⟩

theorem updateIndexes_eq_ok :
    updateIndexes reserve scaled reserve.liquidityIndex reserve.variableBorrowIndex
        reserve.lastUpdateTimestamp now = .ok (reserve', li, vi) ↔
      updatedLiquidityIndex reserve now = .ok li ∧ updatedBorrowIndex reserve scaled now = .ok vi ∧
        reserve' = { reserve with
          liquidityIndex := li
          variableBorrowIndex := vi
          lastUpdateTimestamp := uint40 now } := by
  unfold updateIndexes updatedLiquidityIndex updatedBorrowIndex
  by_cases hrate : reserve.currentLiquidityRate > 0
  · by_cases hdebt : scaled ≠ 0
    · simp only [if_pos hrate, if_pos hdebt, if_pos (And.intro hrate hdebt), bind_eq_ok, pure_eq_ok,
        Prod.mk.injEq]
      constructor
      · rintro ⟨_, hli, _, hvi, rfl, rfl, rfl⟩
        obtain ⟨-, -, -, hlimax⟩ := accumulate_eq_ok.mp hli
        obtain ⟨-, -, -, hvimax⟩ := accumulate_eq_ok.mp hvi
        exact ⟨hli, hvi, by rw [uint128_of_le hlimax, uint128_of_le hvimax]⟩
      · rintro ⟨hli, hvi, rfl⟩
        obtain ⟨-, -, -, hlimax⟩ := accumulate_eq_ok.mp hli
        obtain ⟨-, -, -, hvimax⟩ := accumulate_eq_ok.mp hvi
        exact ⟨_, hli, _, hvi, by rw [uint128_of_le hlimax, uint128_of_le hvimax], rfl, rfl⟩
    · simp only [if_pos hrate, if_neg hdebt, if_neg (fun h => hdebt (And.right h)), bind_eq_ok,
        pure_eq_ok, Prod.mk.injEq]
      constructor
      · rintro ⟨_, hli, rfl, rfl, rfl⟩
        obtain ⟨-, -, -, hlimax⟩ := accumulate_eq_ok.mp hli
        exact ⟨hli, rfl, by rw [uint128_of_le hlimax]⟩
      · rintro ⟨hli, rfl, rfl⟩
        obtain ⟨-, -, -, hlimax⟩ := accumulate_eq_ok.mp hli
        exact ⟨_, hli, by rw [uint128_of_le hlimax], rfl, rfl⟩
  · simp only [if_neg hrate, if_neg (fun h => hrate (And.left h)), pure_eq_ok, Prod.mk.injEq]
    constructor
    · rintro ⟨rfl, rfl, rfl⟩
      exact ⟨rfl, rfl, rfl⟩
    · rintro ⟨rfl, rfl, rfl⟩
      exact ⟨rfl, rfl, rfl⟩

theorem le_accumulate (hinterest : ∀ factor, interest = .ok factor → RAY ≤ factor)
    (h : accumulate interest index overflow = .ok newIndex) : index ≤ newIndex := by
  obtain ⟨factor, hfactor, hmul, -⟩ := accumulate_eq_ok.mp h
  exact le_rayMul (hinterest factor hfactor) hmul

theorem le_updatedLiquidityIndex (h : updatedLiquidityIndex reserve now = .ok li) :
    reserve.liquidityIndex ≤ li := by
  unfold updatedLiquidityIndex at h
  split at h
  · exact le_accumulate (fun _ hfactor => RAY_le_linearInterest hfactor) h
  · exact Nat.le_of_eq (pure_eq_ok.mp h)

theorem le_updatedBorrowIndex (h : updatedBorrowIndex reserve scaled now = .ok vi) :
    reserve.variableBorrowIndex ≤ vi := by
  unfold updatedBorrowIndex at h
  split at h
  · exact le_accumulate (fun _ hfactor => RAY_le_compoundedInterest hfactor) h
  · exact Nat.le_of_eq (pure_eq_ok.mp h)

theorem updatedLiquidityIndex_le (hindex : reserve.liquidityIndex ≤ Uint128.max)
    (h : updatedLiquidityIndex reserve now = .ok li) : li ≤ Uint128.max := by
  unfold updatedLiquidityIndex at h
  split at h
  · obtain ⟨-, -, -, hmax⟩ := accumulate_eq_ok.mp h
    exact hmax
  · exact pure_eq_ok.mp h ▸ hindex

theorem updatedBorrowIndex_le (hindex : reserve.variableBorrowIndex ≤ Uint128.max)
    (h : updatedBorrowIndex reserve scaled now = .ok vi) : vi ≤ Uint128.max := by
  unfold updatedBorrowIndex at h
  split at h
  · obtain ⟨-, -, -, hmax⟩ := accumulate_eq_ok.mp h
    exact hmax
  · exact pure_eq_ok.mp h ▸ hindex

section Faults

variable {bad : Revert → Prop} (hpanic : ¬bad .panic) (herror : ∀ e, ¬bad (.error e))
include hpanic herror

theorem avoids_getNormalizedDebt (reserve : ReserveData) (now : Nat) :
    Avoids bad (getNormalizedDebt reserve now) :=
  avoids_ite (fun _ => avoids_pure _) fun _ =>
    (avoids_calculateCompoundedInterest hpanic herror _ _ _).bind fun _ _ =>
      avoids_rayMul hpanic herror _ _

theorem avoids_getNormalizedIncome (reserve : ReserveData) (now : Nat) :
    Avoids bad (getNormalizedIncome reserve now) :=
  avoids_ite (fun _ => avoids_pure _) fun _ =>
    (avoids_calculateLinearInterest hpanic _ _ _).bind fun _ _ =>
      avoids_rayMul hpanic herror _ _

theorem avoids_accumulate (hinterest : Avoids bad interest) (index : Nat) (overflow : Errors) :
    Avoids bad (accumulate interest index overflow) := by
  refine hinterest.bind fun _ _ => ?_
  refine (avoids_rayMul hpanic herror _ _).bind fun _ _ => ?_
  exact (avoids_require fun _ => herror _).bind fun _ _ => avoids_pure _

theorem avoids_updateIndexes (reserve : ReserveData) (scaled index debtIndex last now : Nat) :
    Avoids bad (updateIndexes reserve scaled index debtIndex last now) := by
  refine avoids_ite (fun _ => ?_) fun _ => avoids_pure _
  refine (avoids_accumulate hpanic herror
    (avoids_calculateLinearInterest hpanic _ _ _) _ _).bind fun _ _ => ?_
  refine avoids_ite (fun _ => ?_) fun _ => avoids_pure _
  exact (avoids_accumulate hpanic herror
    (avoids_calculateCompoundedInterest hpanic herror _ _ _) _ _).bind fun _ _ => avoids_pure _

end Faults

end ReserveLogic

end Confetti
