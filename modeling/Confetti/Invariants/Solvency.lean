import Confetti.Effects.Frames
import Confetti.Effects.Rebalancing
import Confetti.Library.FiniteLedger
import Confetti.Properties.CurrentRates
import Confetti.Properties.DepositorBalances
import Confetti.Properties.InterestMargin

/-! What a reserve owes its depositors against what it holds and is owed. Each operation may
add some roundings to what is missing; the slack counts them in scaled units, which grow with
the depositors' index. -/
namespace Confetti
open Outcome TransitionSystem HalfUp ReserveLogic InterestRate

namespace State

variable (s : State) (asset : Address)

def cashHeld : ℚ := (s.erc20 asset).balances (.cToken asset)

def depositIndex : ℚ := (s.pool.reserves asset).liquidityIndex / RAY

def debtIndex : ℚ := (s.pool.reserves asset).variableBorrowIndex / RAY

def depositsWorth : ℚ := (s.cTokens asset).scaledTotalSupply * s.depositIndex asset

def claimsOf (holders : Finset Address) : ℚ :=
  (FiniteLedger.total holders id (s.cTokens asset).ledger.balances : Nat) * s.depositIndex asset

/-- What all borrowers owe, unrounded. -/
def debtsWorth : ℚ := (s.debtTokens asset).scaledTotalSupply * s.debtIndex asset

/-- How far the depositors' rate may be off, over the whole reserve. -/
def rateRounding : ℚ :=
  let rate : ℚ := (s.pool.reserves asset).currentVariableBorrowRate
  WAD / 2 + rate / 2 + (2 + rate / (2 * RAY)) * (s.cashHeld asset + s.debtsWorth asset + 1 / 2)

/-- What an accrual may lose to roundings. Nothing accrues as long as depositors earn nothing. -/
def accrualRounding : ℚ :=
  let reserve := s.pool.reserves asset
  let period : ℚ := (s.timestamp - reserve.lastUpdateTimestamp : Nat)
  if reserve.currentLiquidityRate = 0 then 0
  else 2 + ((s.cTokens asset).scaledTotalSupply + (s.debtTokens asset).scaledTotalSupply : ℚ) /
      (2 * RAY) +
    period * (s.debtsWorth asset / RAY + s.rateRounding asset / (SECONDS_PER_YEAR * RAY))

def interestUpTo (vi : Nat) : Nat :=
  interestCharged (s.debtTokens asset).scaledTotalSupply
    (s.pool.reserves asset).variableBorrowIndex vi

/-- What a reserve factor gives the treasury of the interest that an update would charge now. -/
def treasuryPart (factor : Nat) : Except Revert Nat := do
  let li ← updatedLiquidityIndex (s.pool.reserves asset) s.timestamp
  let vi ← updatedBorrowIndex (s.pool.reserves asset) (s.debtTokens asset).scaledTotalSupply
    s.timestamp
  pure (treasuryShare factor (s.interestUpTo asset vi) li)

def reserveFactor : Nat := (s.pool.reserves asset).configuration.getReserveFactor

end State

/-- An update now gives the treasury no more than this factor would. -/
def TakesNoMore (s : State) (asset : Address) (factor : Nat) : Prop :=
  ∀ part, s.treasuryPart asset (s.reserveFactor asset) = .ok part →
    ∀ fair, s.treasuryPart asset factor = .ok fair → part ≤ fair

instance (s : State) (asset : Address) (factor : Nat) : Decidable (TakesNoMore s asset factor) :=
  inferInstanceAs (Decidable (∀ part, _ = _ → ∀ fair, _ = _ → part ≤ fair))

/-- Beyond the slack, deposits are covered by cash and debts, and earn no more than what a reserve
factor leaves to depositors of what the debts are charged. -/
structure CoveredUpTo (s : State) (asset : Address) (factor : Nat) (slack : ℚ) : Prop where
  slack_nonneg : 0 ≤ slack
  covered : s.depositsWorth asset ≤
    s.cashHeld asset + s.debtsWorth asset + slack * s.depositIndex asset
  earned : (s.depositsWorth asset - slack * s.depositIndex asset) *
      (s.pool.reserves asset).currentLiquidityRate ≤
    depositorShare factor *
        ((s.pool.reserves asset).currentVariableBorrowRate * s.debtsWorth asset) +
      s.rateRounding asset
  factor_le : (s.pool.reserves asset).currentLiquidityRate ≠ 0 → factor ≤ PERCENTAGE_FACTOR

variable {s s' : State} {asset : Address} {slack : ℚ} {factor li vi : Nat}
  {cTokens : Address → CToken}

/-! ### Quantities -/

theorem cashHeld_nonneg (s : State) (asset : Address) : 0 ≤ s.cashHeld asset := Nat.cast_nonneg _

theorem depositIndex_nonneg (s : State) (asset : Address) : 0 ≤ s.depositIndex asset := by
  unfold State.depositIndex
  positivity

theorem debtsWorth_nonneg (s : State) (asset : Address) : 0 ≤ s.debtsWorth asset := by
  unfold State.debtsWorth State.debtIndex
  positivity

theorem rateRounding_nonneg (s : State) (asset : Address) : 0 ≤ s.rateRounding asset := by
  have hcash := cashHeld_nonneg s asset
  have hdebts := debtsWorth_nonneg s asset
  unfold State.rateRounding
  positivity

theorem accrualRounding_nonneg (s : State) (asset : Address) : 0 ≤ s.accrualRounding asset := by
  have hdebts := debtsWorth_nonneg s asset
  have hrates := rateRounding_nonneg s asset
  unfold State.accrualRounding
  dsimp only
  split
  · exact le_refl _
  · positivity

/-! ### The accrual -/

/-- A period, put together: deposits grow by their share of the interest and the treasury takes
the rest, beyond what the slack grows by. -/
private theorem credited_after {deposits scaled slack index index' debts debts' owed grown
    charged treasury interest share unit lost rounding : ℚ}
    (hdeposits : deposits = scaled * index) (hscaled : 0 ≤ scaled) (hslack : 0 ≤ slack)
    (howed : 0 ≤ owed) (hunit : 0 ≤ unit)
    (hlost : 0 ≤ lost) (hrounding : 0 ≤ rounding) (hshare : 0 ≤ share) (hone : share ≤ 1)
    (hone' : 1 ≤ index') (hrose : index ≤ index')
    (hindex : index' ≤ index * (1 + grown) + unit / 2)
    (hearned : (deposits - slack * index) * grown ≤ share * (debts * charged) + rounding)
    (hcharged : debts * (1 + charged) - lost - owed * unit / 2 ≤ debts')
    (htreasury : treasury ≤ (1 - share) * interest + 1 / 2 + index' / 2)
    (hinterest : interest ≤ debts' - debts + 1) (hgrew : debts ≤ debts') :
    scaled * index' + treasury ≤ deposits + (debts' - debts) + slack * (index' - index) +
      (2 + (scaled + owed) * unit / 2 + (lost + rounding)) * index' := by
  have herror : 0 ≤ (scaled + owed) * unit / 2 + (lost + rounding) := by positivity
  have hworth := mul_le_mul_of_nonneg_left hone' herror
  have htaken : treasury ≤ (1 - share) * (debts' - debts) + 3 / 2 + index' / 2 := by
    have hpart := mul_le_mul_of_nonneg_left hinterest (sub_nonneg.mpr hone)
    linarith
  rcases le_total slack scaled with hle | hle
  · have hrest := mul_le_mul_of_nonneg_left hindex (sub_nonneg.mpr hle)
    have hearned' : (scaled - slack) * index * grown ≤ share * (debts * charged) + rounding := by
      rw [hdeposits] at hearned
      linarith
    have hpart := mul_le_mul_of_nonneg_left hcharged hshare
    have hloss := mul_le_mul_of_nonneg_right hone
      (show 0 ≤ lost + owed * unit / 2 by positivity)
    have hslackUnit : 0 ≤ slack * unit := by positivity
    linarith
  · have hrest := mul_le_mul_of_nonneg_right hle (show 0 ≤ index' - index by linarith)
    have hpart : 0 ≤ share * (debts' - debts) := mul_nonneg hshare (by linarith)
    linarith

/-- The treasury's position is worth its percentage of the interest, up to a half on either
side of the scaling. -/
theorem treasuryShare_worth (interest : Nat) {factor index : Nat}
    (hfactor : factor ≤ PERCENTAGE_FACTOR) (hindex : 0 < index) :
    (treasuryShare factor interest index : ℚ) * (index / RAY) ≤
      (1 - depositorShare factor) * interest + 1 / 2 + index / RAY / 2 := by
  have hamount := halfUp_le_add_half (interest * factor) (d := PERCENTAGE_FACTOR) (by decide)
  have hscaled := halfUp_le_add_half (halfUp (interest * factor) PERCENTAGE_FACTOR * RAY) hindex
  have hindex' : (0 : ℚ) < index := by exact_mod_cast hindex
  have hray := RAY_pos_rat
  have hrest : 1 - depositorShare factor = (factor : ℚ) / PERCENTAGE_FACTOR := by
    unfold depositorShare
    rw [Nat.cast_sub hfactor, sub_div, div_self (by norm_num [PERCENTAGE_FACTOR])]
    ring
  push_cast at hamount hscaled
  calc
    (treasuryShare factor interest index : ℚ) * (index / RAY) ≤
        ((halfUp (interest * factor) PERCENTAGE_FACTOR : ℚ) * RAY / index + 1 / 2) *
          (index / RAY) := by
      unfold treasuryShare
      gcongr
    _ = halfUp (interest * factor) PERCENTAGE_FACTOR + index / RAY / 2 := by
      field_simp
    _ ≤ interest * factor / PERCENTAGE_FACTOR + 1 / 2 + index / RAY / 2 := by gcongr
    _ = (1 - depositorShare factor) * interest + 1 / 2 + index / RAY / 2 := by
      rw [hrest]
      ring

theorem interestCharged_le (scaled : Nat) {old new : Nat} (hle : old ≤ new) :
    (interestCharged scaled old new : ℚ) ≤ scaled * (new / RAY) - scaled * (old / RAY) + 1 := by
  have hmono : halfUp (scaled * old) RAY ≤ halfUp (scaled * new) RAY :=
    halfUp_mono (Nat.mul_le_mul_left _ hle) RAY
  have hnew := halfUp_le_add_half (scaled * new) RAY_pos
  have hold := sub_half_le_halfUp (scaled * old) RAY_pos
  unfold interestCharged
  rw [Nat.cast_sub hmono]
  push_cast at hnew hold
  rw [mul_div_assoc] at hnew hold
  linarith

theorem grown_index_le {factor index new : Nat} (h : halfUp (factor * index) RAY = new) :
    (new : ℚ) / RAY ≤ index / RAY * (factor / RAY) + 1 / RAY / 2 := by
  have hray := RAY_pos_rat
  have hnew := halfUp_le_add_half (factor * index) RAY_pos
  rw [h] at hnew
  push_cast at hnew
  calc
    (new : ℚ) / RAY ≤ (factor * index / RAY + 1 / 2) / RAY := by gcongr
    _ = index / RAY * (factor / RAY) + 1 / RAY / 2 := by ring

theorem le_grown_index {factor index new : Nat} (h : halfUp (factor * index) RAY = new) :
    index / RAY * (factor / RAY) - 1 / RAY / 2 ≤ (new : ℚ) / RAY := by
  have hray := RAY_pos_rat
  have hnew := sub_half_le_halfUp (factor * index) RAY_pos
  rw [h] at hnew
  push_cast at hnew
  calc
    (index : ℚ) / RAY * (factor / RAY) - 1 / RAY / 2 = (factor * index / RAY - 1 / 2) / RAY := by
      ring
    _ ≤ (new : ℚ) / RAY := by gcongr

theorem debts_charged (period : ℚ) (hperiod : period =
      ((s.timestamp - (s.pool.reserves asset).lastUpdateTimestamp : Nat) : ℚ))
    (hvi : updatedBorrowIndex (s.pool.reserves asset) (s.debtTokens asset).scaledTotalSupply
      s.timestamp = .ok vi) (hrate : (s.pool.reserves asset).currentLiquidityRate ≠ 0) :
    s.debtsWorth asset * (1 + overPeriod (s.pool.reserves asset).currentVariableBorrowRate
          (s.timestamp - (s.pool.reserves asset).lastUpdateTimestamp)) -
        period * (s.debtsWorth asset / RAY) -
        (s.debtTokens asset).scaledTotalSupply * (1 / RAY) / 2 ≤
      (s.debtTokens asset).scaledTotalSupply * (vi / RAY) := by
  have hray := RAY_pos_rat
  by_cases hnone : (s.debtTokens asset).scaledTotalSupply = 0
  · unfold State.debtsWorth
    rw [hnone]
    simp
  · rw [updatedBorrowIndex, if_pos ⟨Nat.pos_of_ne_zero hrate, hnone⟩] at hvi
    obtain ⟨factor, hfactor, hmul, -⟩ := accumulate_eq_ok.mp hvi
    obtain ⟨-, hnew⟩ := rayMul_eq_ok.mp hmul
    have hcharged := le_compoundedInterest hfactor
    have hgrown := le_grown_index hnew
    rw [← hperiod] at hcharged
    have hindex : (0 : ℚ) ≤ s.debtIndex asset := by
      unfold State.debtIndex
      positivity
    have hscaled : (0 : ℚ) ≤ (s.debtTokens asset).scaledTotalSupply := Nat.cast_nonneg _
    have hworth : s.debtIndex asset *
        (1 + overPeriod (s.pool.reserves asset).currentVariableBorrowRate
          (s.timestamp - (s.pool.reserves asset).lastUpdateTimestamp) - period / RAY) -
            1 / RAY / 2 ≤ vi / RAY := by
      have hpart := mul_le_mul_of_nonneg_left hcharged hindex
      change (s.debtIndex asset) * (factor / RAY) - _ ≤ _ at hgrown
      linarith
    have hdebts := mul_le_mul_of_nonneg_left hworth hscaled
    unfold State.debtsWorth
    refine le_of_eq_of_le ?_ hdebts
    ring

theorem Accrual.supply (ha : Accrual s asset li vi cTokens) :
    (cTokens asset).scaledTotalSupply = (s.cTokens asset).scaledTotalSupply +
      treasuryShare (s.reserveFactor asset) (s.interestUpTo asset vi) li := by
  rw [mintToTreasury_spec ha.listed.cToken ha.treasury, Function.update_self,
    CToken.credited_scaledTotalSupply]
  rfl

theorem Accrual.treasuryPart (ha : Accrual s asset li vi cTokens) (factor : Nat) :
    s.treasuryPart asset factor = .ok (treasuryShare factor (s.interestUpTo asset vi) li) := by
  have hvi : updatedBorrowIndex (s.pool.reserves asset) (s.debtTokens asset).scaledTotalSupply
    s.timestamp = .ok vi := ha.variableBorrowIndex
  unfold State.treasuryPart
  rw [ha.liquidityIndex, ok_bind, hvi, ok_bind]
  rfl

/-- What an accrual credits is charged, up to what the slack grows by and the roundings. -/
theorem Accrual.credited (ha : Accrual s asset li vi cTokens)
    (h : CoveredUpTo s asset factor slack) (htakes : TakesNoMore s asset factor) :
    (cTokens asset).scaledTotalSupply * ((li : ℚ) / RAY) ≤ s.depositsWorth asset +
      ((s.debtTokens asset).scaledTotalSupply * ((vi : ℚ) / RAY) - s.debtsWorth asset) +
        slack * ((li : ℚ) / RAY - s.depositIndex asset) +
          s.accrualRounding asset * ((li : ℚ) / RAY) := by
  have hray := RAY_pos_rat
  have htaken : treasuryShare (s.reserveFactor asset) (s.interestUpTo asset vi) li ≤
      treasuryShare factor (s.interestUpTo asset vi) li :=
    htakes _ (ha.treasuryPart _) _ (ha.treasuryPart factor)
  have hsupply := ha.supply
  by_cases hrate : (s.pool.reserves asset).currentLiquidityRate = 0
  · -- nothing accrues, so the treasury gets nothing either
    have hli := ha.liquidityIndex
    have hvi := ha.variableBorrowIndex
    rw [updatedLiquidityIndex, if_neg (by simp [hrate]), pure_eq_ok] at hli
    rw [updatedBorrowIndex, if_neg (by simp [hrate]), pure_eq_ok] at hvi
    subst hli hvi
    rw [hsupply]
    simp only [State.interestUpTo, interestCharged, Nat.sub_self, treasuryShare, Nat.zero_mul,
      halfUp_zero, Nat.add_zero]
    unfold State.accrualRounding State.depositsWorth State.debtsWorth State.depositIndex
      State.debtIndex
    rw [if_pos hrate]
    simp
  · have hli := ha.liquidityIndex
    rw [updatedLiquidityIndex, if_pos (Nat.pos_of_ne_zero hrate)] at hli
    obtain ⟨cumulated, hcumulated, hmul, -⟩ := accumulate_eq_ok.mp hli
    obtain ⟨-, hnew⟩ := rayMul_eq_ok.mp hmul
    have hgrew := le_updatedBorrowIndex ha.variableBorrowIndex
    have hlinear := linearInterest_le hcumulated
    have hindex := grown_index_le hnew
    have htreasury := treasuryShare_worth (s.interestUpTo asset vi) (h.factor_le hrate) ha.li_pos
    have hinterest := interestCharged_le (s.debtTokens asset).scaledTotalSupply hgrew
    have hone : (1 : ℚ) ≤ li / RAY := by
      rw [le_div_iff₀ hray, one_mul]
      exact_mod_cast (ha.accrued_listed 0).RAY_le_liquidityIndex
    have hrose : s.depositIndex asset ≤ li / RAY := by
      have hle := le_rayMul (RAY_le_linearInterest hcumulated) hmul
      unfold State.depositIndex
      gcongr
    generalize hperiod : s.timestamp - (s.pool.reserves asset).lastUpdateTimestamp = period
      at hlinear
    have hcharged := debts_charged (period : ℚ) (by rw [hperiod])
      ha.variableBorrowIndex hrate
    rw [hperiod] at hcharged
    have hgrown : (li : ℚ) / RAY ≤ s.depositIndex asset *
        (1 + overPeriod (s.pool.reserves asset).currentLiquidityRate period) + 1 / RAY / 2 := by
      have hpart := mul_le_mul_of_nonneg_left hlinear (depositIndex_nonneg s asset)
      change _ ≤ s.depositIndex asset * (cumulated / RAY) + _ at hindex
      linarith
    have hearned : (s.depositsWorth asset - slack * s.depositIndex asset) *
        overPeriod (s.pool.reserves asset).currentLiquidityRate period ≤
          depositorShare factor *
            (s.debtsWorth asset * overPeriod (s.pool.reserves asset).currentVariableBorrowRate
              period) + period * (s.rateRounding asset / (SECONDS_PER_YEAR * RAY)) := by
      have hyear := year_pos
      have hpart := mul_le_mul_of_nonneg_right h.earned
        (show (0 : ℚ) ≤ period / (SECONDS_PER_YEAR * RAY) by positivity)
      unfold overPeriod
      refine le_of_eq_of_le ?_ (hpart.trans_eq ?_)
      · ring
      · ring
    have hdebts : s.debtsWorth asset ≤
        (s.debtTokens asset).scaledTotalSupply * ((vi : ℚ) / RAY) := by
      unfold State.debtsWorth State.debtIndex
      gcongr
    have hlost : 0 ≤ (period : ℚ) * (s.debtsWorth asset / RAY) := by
      have hpart := debtsWorth_nonneg s asset
      positivity
    have hrounding : 0 ≤ (period : ℚ) * (s.rateRounding asset / (SECONDS_PER_YEAR * RAY)) := by
      have hpart := rateRounding_nonneg s asset
      positivity
    have hresult := credited_after rfl (Nat.cast_nonneg _)
      h.slack_nonneg (Nat.cast_nonneg _) (by positivity) hlost hrounding (depositorShare_nonneg _)
      (depositorShare_le_one _) hone hrose hgrown hearned hcharged htreasury hinterest hdebts
    have htaken' : (treasuryShare (s.reserveFactor asset) (s.interestUpTo asset vi) li : ℚ) *
        (li / RAY) ≤ treasuryShare factor (s.interestUpTo asset vi) li * (li / RAY) := by gcongr
    have hlosses : s.accrualRounding asset = 2 + ((s.cTokens asset).scaledTotalSupply +
          (s.debtTokens asset).scaledTotalSupply) * (1 / RAY) / 2 +
        (period * (s.debtsWorth asset / RAY) +
          period * (s.rateRounding asset / (SECONDS_PER_YEAR * RAY))) := by
      unfold State.accrualRounding
      rw [if_neg hrate, hperiod]
      ring
    rw [hsupply, Nat.cast_add, add_mul, hlosses]
    exact (add_le_add_right htaken' _).trans hresult

theorem Accrual.covered (ha : Accrual s asset li vi cTokens)
    (h : CoveredUpTo s asset factor slack) (htakes : TakesNoMore s asset factor) :
    (cTokens asset).scaledTotalSupply * ((li : ℚ) / RAY) ≤ s.cashHeld asset +
      (s.debtTokens asset).scaledTotalSupply * ((vi : ℚ) / RAY) +
        (slack + s.accrualRounding asset) * ((li : ℚ) / RAY) := by
  have hcredited := ha.credited h htakes
  have hcovered := h.covered
  linarith

/-! ### The operations of the pool -/

/-- What an operation from one state to another may lose to roundings, in scaled units. -/
def State.roundings (s s' : State) (asset : Address) : ℚ :=
  s.accrualRounding asset + 1 + s'.debtIndex asset / (2 * s'.depositIndex asset)

theorem liquidityRate_over_le {interestRate : InterestRate} {cash debt factor : Nat}
    {rates : Nat × Nat} (hdebt : 0 < debt)
    (h : interestRate.calculateInterestRates cash debt factor = .ok rates) :
    (rates.1 : ℚ) * (cash + debt) ≤ depositorShare factor * (rates.2 * debt) + WAD / 2 +
      (2 + rates.2 / (2 * RAY)) * (cash + debt) := by
  obtain ⟨utilization, overall, hutilization, hoverall, -, hliquidity⟩ :=
    calculateInterestRates_spec h
  have hray := RAY_pos_rat
  have hcash : (0 : ℚ) ≤ cash := Nat.cast_nonneg _
  have hdebt' : (0 : ℚ) < debt := by exact_mod_cast hdebt
  have hweighted := overallRate_mul_le hdebt hoverall
  have hused := utilization_mul_le hdebt hutilization
  have hbound := overallRate_le hdebt hoverall
  have hunit : (overall : ℚ) / RAY ≤ rates.2 / RAY + 1 := by
    have hwad : (WAD : ℚ) / 2 + 1 / 2 ≤ RAY := by norm_num [WAD, RAY]
    rw [div_add_one hray.ne']
    gcongr
    linarith
  have hearned : (overall : ℚ) * utilization / RAY * (cash + debt) ≤
      rates.2 * debt + WAD / 2 + debt / 2 + (rates.2 / RAY + 1) * ((cash + debt) / 2) := by
    calc
      (overall : ℚ) * utilization / RAY * (cash + debt) =
          overall / RAY * (utilization * (cash + debt)) := by ring
      _ ≤ overall / RAY * (debt * RAY + (cash + debt) / 2) := by gcongr
      _ = overall * debt + overall / RAY * ((cash + debt) / 2) := by
        field_simp
      _ ≤ overall * debt + (rates.2 / RAY + 1) * ((cash + debt) / 2) := by gcongr
      _ ≤ _ := by linarith
  have hshare := depositorShare_nonneg factor
  have hone := depositorShare_le_one factor
  have hloss : depositorShare factor * (WAD / 2 + debt / 2 +
      (rates.2 / RAY + 1) * ((cash + debt) / 2) + (cash + debt) / 2) ≤
        1 * (WAD / 2 + debt / 2 + (rates.2 / RAY + 1) * ((cash + debt) / 2) +
          (cash + debt) / 2) := by
    apply mul_le_mul_of_nonneg_right hone
    positivity
  have hhalf : (rates.2 : ℚ) / (2 * RAY) = rates.2 / RAY / 2 := by field_simp
  rw [hliquidity, hhalf]
  calc
    _ ≤ (depositorShare factor * ((overall : ℚ) * utilization / RAY + 1 / 2) + 1 / 2) *
        (cash + debt) := by
      gcongr
      exact liquidityRate_le
    _ = depositorShare factor * (overall * utilization / RAY * (cash + debt)) +
        depositorShare factor * ((cash + debt) / 2) + (cash + debt) / 2 := by ring
    _ ≤ depositorShare factor * (rates.2 * debt + WAD / 2 + debt / 2 +
          (rates.2 / RAY + 1) * ((cash + debt) / 2)) +
        depositorShare factor * ((cash + debt) / 2) + (cash + debt) / 2 := by gcongr
    _ ≤ _ := by linarith

theorem PoolStep.depositIndex (h : PoolStep s asset li vi s') :
    s'.depositIndex asset = (li : ℚ) / RAY := by
  obtain ⟨_, _, hpool⟩ := h.pool
  unfold State.depositIndex
  rw [hpool, LendPoolStorage.setReserve_reserves, Function.update_self]
  rfl

theorem PoolStep.debtIndex (h : PoolStep s asset li vi s') :
    s'.debtIndex asset = (vi : ℚ) / RAY := by
  obtain ⟨_, _, hpool⟩ := h.pool
  unfold State.debtIndex
  rw [hpool, LendPoolStorage.setReserve_reserves, Function.update_self]
  rfl

theorem Rebalanced.worth_le {cash debt : Nat} (h : Rebalanced s asset li vi cTokens cash debt s') :
    s'.depositsWorth asset + s.cashHeld asset +
        (s.debtTokens asset).scaledTotalSupply * ((vi : ℚ) / RAY) ≤
      (cTokens asset).scaledTotalSupply * ((li : ℚ) / RAY) + cash + s'.debtsWorth asset +
        ((li : ℚ) / RAY + (vi : ℚ) / RAY) / 2 := by
  have hray := RAY_pos_rat
  have hmoved : (2 : ℚ) * ((s'.cTokens asset).scaledTotalSupply * li +
        (s.erc20 asset).balances (.cToken asset) * RAY +
      (s.debtTokens asset).scaledTotalSupply * vi) ≤
    2 * ((cTokens asset).scaledTotalSupply * li + cash * RAY +
      (s'.debtTokens asset).scaledTotalSupply * vi) + (li + vi) := by
    exact_mod_cast h.moved
  have hscaled := div_le_div_of_nonneg_right hmoved (show (0 : ℚ) ≤ 2 * RAY by positivity)
  unfold State.depositsWorth State.debtsWorth State.cashHeld
  rw [h.step.depositIndex, h.step.debtIndex]
  refine le_of_eq_of_le ?_ (hscaled.trans_eq ?_)
  · field_simp
  · field_simp

theorem Rebalanced.earned_le {cash debt : Nat} {deposits : ℚ}
    (h : Rebalanced s asset li vi cTokens cash debt s') (hcash : (cash : ℚ) ≤ s'.cashHeld asset)
    (hdeposits : deposits ≤ cash + s'.debtsWorth asset - 1 / 2) :
    deposits * (s'.pool.reserves asset).currentLiquidityRate ≤
      depositorShare (s.pool.reserves asset).configuration.getReserveFactor *
          ((s'.pool.reserves asset).currentVariableBorrowRate * s'.debtsWorth asset) +
        s'.rateRounding asset := by
  obtain ⟨interestRate, hrates⟩ := h.rates
  have hworth : s'.debtsWorth asset =
      (((s'.debtTokens asset).scaledTotalSupply * vi : Nat) : ℚ) / RAY := by
    unfold State.debtsWorth
    rw [h.step.debtIndex]
    push_cast
    ring
  obtain ⟨-, hdebt⟩ := rayMul_eq_ok.mp h.debt_eq
  have hle := halfUp_le_add_half ((s'.debtTokens asset).scaledTotalSupply * vi) RAY_pos
  have hge := sub_half_le_halfUp ((s'.debtTokens asset).scaledTotalSupply * vi) RAY_pos
  rw [hdebt, ← hworth] at hle hge
  rcases Nat.eq_zero_or_pos debt with hzero | hpos
  · -- without debt nobody earns
    subst hzero
    have hnone := liquidityRate_of_no_debt hrates
    simp only at hnone
    rw [hnone, Nat.cast_zero, mul_zero]
    have hdebts := debtsWorth_nonneg s' asset
    have hrounding := rateRounding_nonneg s' asset
    have hshare := depositorShare_nonneg
      (s.pool.reserves asset).configuration.getReserveFactor
    positivity
  · have hover := liquidityRate_over_le hpos hrates
    simp only at hover
    generalize (s'.pool.reserves asset).currentLiquidityRate = earned at hover ⊢
    have hshare := depositorShare_nonneg (s.pool.reserves asset).configuration.getReserveFactor
    have hone := depositorShare_le_one (s.pool.reserves asset).configuration.getReserveFactor
    have hrate : (0 : ℚ) ≤ (s'.pool.reserves asset).currentVariableBorrowRate := Nat.cast_nonneg _
    unfold State.rateRounding
    dsimp only
    generalize ((s'.pool.reserves asset).currentVariableBorrowRate : ℚ) = rate at hover hrate ⊢
    generalize depositorShare (s.pool.reserves asset).configuration.getReserveFactor = share
      at hover hshare hone ⊢
    have htotal : (cash : ℚ) + debt ≤ s'.cashHeld asset + s'.debtsWorth asset + 1 / 2 := by linarith
    have hpart : share * (rate * debt) ≤ share * (rate * s'.debtsWorth asset) + rate / 2 := by
      have hcharged : rate * debt ≤ rate * (s'.debtsWorth asset + 1 / 2) := by gcongr
      have hshared := mul_le_mul_of_nonneg_left hcharged hshare
      have hloss := mul_le_mul_of_nonneg_right hone hrate
      linarith
    calc
      deposits * (earned : ℚ) ≤ (cash + debt) * earned := by
        gcongr
        linarith
      _ = earned * (cash + debt) := by ring
      _ ≤ share * (rate * debt) + WAD / 2 + (2 + rate / (2 * RAY)) * (cash + debt) := hover
      _ ≤ share * (rate * debt) + WAD / 2 +
          (2 + rate / (2 * RAY)) * (s'.cashHeld asset + s'.debtsWorth asset + 1 / 2) := by gcongr
      _ ≤ _ := by linarith

/-- An operation of the pool keeps its reserve solvent, up to its roundings. -/
theorem Rebalanced.coveredUpTo {cash debt : Nat} (h : Rebalanced s asset li vi cTokens cash debt s')
    (hs : CoveredUpTo s asset factor slack) (htakes : TakesNoMore s asset factor) :
    CoveredUpTo s' asset (s.reserveFactor asset) (slack + s.roundings s' asset) := by
  have hray := RAY_pos_rat
  obtain ⟨interestRate, hrates⟩ := h.rates
  have hone : 1 ≤ s'.depositIndex asset := by
    rw [h.step.depositIndex, le_div_iff₀ hray, one_mul]
    exact_mod_cast (h.accrual.accrued_listed 0).RAY_le_liquidityIndex
  have hdebtIndex : 0 ≤ s'.debtIndex asset := by
    unfold State.debtIndex
    positivity
  have haccrual := accrualRounding_nonneg s asset
  have hslack := hs.slack_nonneg
  have hcash : (cash : ℚ) ≤ s'.cashHeld asset := by
    unfold State.cashHeld
    exact_mod_cast h.cash_le
  have hworth : s'.depositsWorth asset + (s'.depositIndex asset) / 2 ≤ cash +
      s'.debtsWorth asset + (slack + s.roundings s' asset) * s'.depositIndex asset := by
    have hcovered := h.accrual.covered hs htakes
    have hmoved := h.worth_le
    rw [← h.step.depositIndex] at hcovered hmoved
    rw [← h.step.debtIndex] at hcovered hmoved
    have hsplit : (slack + s.roundings s' asset) * s'.depositIndex asset =
        (slack + s.accrualRounding asset) * s'.depositIndex asset + s'.depositIndex asset +
          s'.debtIndex asset / 2 := by
      unfold State.roundings
      field_simp
      ring
    rw [hsplit]
    linarith
  refine ⟨?_, ?_, ?_, ?_⟩
  · unfold State.roundings
    positivity
  · linarith
  · exact h.earned_le hcash (by linarith)
  · intro _
    obtain ⟨_, _, -, -, hle, -⟩ := calculateInterestRates_spec hrates
    exact hle

/-! ### Everything else -/

/-- Nothing but the cash of a reserve changes, and that does not fall. -/
structure Undisturbed (s s' : State) (asset : Address) : Prop where
  deposits : (s'.cTokens asset).scaledTotalSupply = (s.cTokens asset).scaledTotalSupply
  debts : (s'.debtTokens asset).scaledTotalSupply = (s.debtTokens asset).scaledTotalSupply
  liquidityIndex : (s'.pool.reserves asset).liquidityIndex =
    (s.pool.reserves asset).liquidityIndex
  variableBorrowIndex : (s'.pool.reserves asset).variableBorrowIndex =
    (s.pool.reserves asset).variableBorrowIndex
  liquidityRate : (s'.pool.reserves asset).currentLiquidityRate =
    (s.pool.reserves asset).currentLiquidityRate
  borrowRate : (s'.pool.reserves asset).currentVariableBorrowRate =
    (s.pool.reserves asset).currentVariableBorrowRate
  lastUpdate : (s'.pool.reserves asset).lastUpdateTimestamp =
    (s.pool.reserves asset).lastUpdateTimestamp
  cash_le : (s.erc20 asset).balances (.cToken asset) ≤ (s'.erc20 asset).balances (.cToken asset)

theorem Undisturbed.coveredUpTo (h : Undisturbed s s' asset)
    (hs : CoveredUpTo s asset factor slack) : CoveredUpTo s' asset factor slack := by
  have hdeposits : s'.depositsWorth asset = s.depositsWorth asset := by
    unfold State.depositsWorth State.depositIndex
    rw [h.deposits, h.liquidityIndex]
  have hdebts : s'.debtsWorth asset = s.debtsWorth asset := by
    unfold State.debtsWorth State.debtIndex
    rw [h.debts, h.variableBorrowIndex]
  have hindex : s'.depositIndex asset = s.depositIndex asset := by
    unfold State.depositIndex
    rw [h.liquidityIndex]
  have hcash : s.cashHeld asset ≤ s'.cashHeld asset := by
    unfold State.cashHeld
    exact_mod_cast h.cash_le
  have hrounding : s.rateRounding asset ≤ s'.rateRounding asset := by
    unfold State.rateRounding
    dsimp only
    rw [h.borrowRate, hdebts]
    gcongr
  refine ⟨hs.slack_nonneg, ?_, ?_, ?_⟩
  · have hcovered := hs.covered
    rw [hdeposits, hdebts, hindex]
    linarith
  · rw [hdeposits, hdebts, hindex, h.liquidityRate, h.borrowRate]
    have hearned := hs.earned
    linarith
  · rw [h.liquidityRate]
    exact hs.factor_le

theorem Rebalanced.undisturbed {cash debt : Nat} {other : Address}
    (h : Rebalanced s other li vi cTokens cash debt s') (hne : asset ≠ other) :
    Undisturbed s s' asset := by
  obtain ⟨hcTokens, hdebtTokens, herc20⟩ := h.aside asset hne
  obtain ⟨_, _, hpool⟩ := h.step.pool
  have hreserve : s'.pool.reserves asset = s.pool.reserves asset := by
    rw [hpool, LendPoolStorage.setReserve_reserves, Function.update_of_ne hne]
  constructor
  · rw [hcTokens]
  · rw [hdebtTokens]
  · rw [hreserve]
  · rw [hreserve]
  · rw [hreserve]
  · rw [hreserve]
  · rw [hreserve]
  · rw [herc20]

theorem UserCall.supply_kept {call : UserCall} (haside : call.entersPool = false)
    (h : call.run s = .ok s') (asset : Address) :
    (s'.cTokens asset).scaledTotalSupply = (s.cTokens asset).scaledTotalSupply := by
  have hledger : ∀ (own : Address) (ledger : ERC20),
      ledger.totalSupply = (s.cTokens own).ledger.totalSupply →
        ((CToken.withLedger s own ledger).cTokens asset).scaledTotalSupply =
          (s.cTokens asset).scaledTotalSupply := by
    intro own ledger hsupply
    by_cases hown : asset = own
    · subst hown
      simpa [CToken.withLedger, CToken.scaledTotalSupply] using hsupply
    · simp [CToken.withLedger, hown]
  cases call with
  | deposit | withdraw | borrow | repay | buyItNow | redeem | liquidate => cases haside
  | transferCToken caller other recipient amount =>
    obtain ⟨own, -, h⟩ := bind_eq_ok.mp h
    obtain ⟨ledger, hscaled, rfl⟩ := bind_pure_eq_ok.mp h
    obtain ⟨_, _, -, -, -, -, hsupply⟩ := CToken.transferScaled_spec hscaled
    exact hledger own ledger hsupply
  | transferCTokenFrom caller other sender recipient amount =>
    obtain ⟨own, ledger, -, hscaled, -, -, rfl⟩ := CToken.transferFrom_eq_ok.mp h
    obtain ⟨_, _, -, -, -, -, hsupply⟩ := CToken.transferScaled_spec hscaled
    exact hledger own _ hsupply
  | approveCToken caller other spender amount =>
    obtain ⟨own, -, h⟩ := bind_eq_ok.mp h
    obtain ⟨ledger, happroved, rfl⟩ := bind_pure_eq_ok.mp h
    obtain ⟨-, rfl⟩ := ERC20.approve_eq_ok.mp happroved
    exact hledger own _ rfl
  | approveDelegation caller other delegatee amount =>
    obtain ⟨_, -, rfl⟩ := bind_pure_eq_ok.mp h
    rfl
  | createCNFT nftAsset =>
    obtain rfl := CNFTRegistry.createCNFT_spec h
    rfl

theorem AdminStep.rates_kept {call : AdminCall} (h : AdminStep call s s') (asset : Address) :
    (s'.pool.reserves asset).currentLiquidityRate =
        (s.pool.reserves asset).currentLiquidityRate ∧
      (s'.pool.reserves asset).currentVariableBorrowRate =
        (s.pool.reserves asset).currentVariableBorrowRate := by
  have hreserve : ∀ (other : Address) (reserve : ReserveData),
      reserve.currentLiquidityRate = (s.pool.reserves other).currentLiquidityRate ∧
        reserve.currentVariableBorrowRate = (s.pool.reserves other).currentVariableBorrowRate →
      (Function.update s.pool.reserves other reserve asset).currentLiquidityRate =
          (s.pool.reserves asset).currentLiquidityRate ∧
        (Function.update s.pool.reserves other reserve asset).currentVariableBorrowRate =
          (s.pool.reserves asset).currentVariableBorrowRate := by
    intro other reserve hrates
    by_cases hother : asset = other
    · subst hother
      rw [Function.update_self]
      exact hrates
    · simp only [Function.update_of_ne hother, and_self]
  cases h with
  | listReserve _ _ h =>
    obtain ⟨-, pool, _, _, -, hreserves, rfl⟩ := executeInitReserve_spec h
    simp only [hreserves]
    exact hreserve _ _ ⟨rfl, rfl⟩
  | listNft _ _ h =>
    obtain ⟨-, pool, _, _, hreserves, -, -, rfl⟩ := executeInitNft_spec h
    simp only [hreserves, and_self]
  | reserveActive | reserveBorrowing | reserveFrozen | reserveFactor | strategy =>
    exact hreserve _ _ ⟨rfl, rfl⟩
  | _ => exact ⟨rfl, rfl⟩

theorem AdminCall.rates_kept {call : AdminCall} (h : call.run s = .ok s') (asset : Address) :
    (s'.pool.reserves asset).currentLiquidityRate =
        (s.pool.reserves asset).currentLiquidityRate ∧
      (s'.pool.reserves asset).currentVariableBorrowRate =
        (s.pool.reserves asset).currentVariableBorrowRate := by
  apply AdminCall.preserves (fun m => (m.pool.reserves asset).currentLiquidityRate =
      (s.pool.reserves asset).currentLiquidityRate ∧
    (m.pool.reserves asset).currentVariableBorrowRate =
      (s.pool.reserves asset).currentVariableBorrowRate) _ h ⟨rfl, rfl⟩
  intro m m' hstep hm
  obtain ⟨hliquidity, hborrow⟩ := hstep.rates_kept asset
  exact ⟨hliquidity.trans hm.1, hborrow.trans hm.2⟩

/-- A reserve that is not listed has no deposits and pays nothing. -/
def Unissued (s : State) : Prop := ∀ asset, (s.pool.reserves asset).cTokenAddress = .zero →
  (s.cTokens asset).scaledTotalSupply = 0 ∧ (s.pool.reserves asset).currentLiquidityRate = 0

theorem coveredUpTo_of_unissued (hslack : 0 ≤ slack)
    (hnone : (s.cTokens asset).scaledTotalSupply = 0)
    (hrate : (s.pool.reserves asset).currentLiquidityRate = 0) :
    CoveredUpTo s asset factor slack := by
  have hcash := cashHeld_nonneg s asset
  have hdebts := debtsWorth_nonneg s asset
  have hindex := depositIndex_nonneg s asset
  have hrounding := rateRounding_nonneg s asset
  have hshare := depositorShare_nonneg factor
  refine ⟨hslack, ?_, ?_, fun hne => absurd hrate hne⟩
  · unfold State.depositsWorth
    rw [hnone, Nat.cast_zero, zero_mul]
    positivity
  · rw [hrate, Nat.cast_zero, mul_zero]
    positivity

theorem UserCall.rebalanced (hw : Wired s) (hf : Filed s) {call : UserCall}
    (hpool : call.entersPool = true) (h : call.run s = .ok s') :
    ∃ li vi cTokens cash debt, Rebalanced s (call.reserve s) li vi cTokens cash debt s' := by
  have haccount : ∀ (n : Nat) (asset : Address), Address.account n ≠ .cToken asset := by
    intro n asset
    simp
  cases call with
  | deposit caller asset amount onBehalfOf =>
    exact deposit_rebalanced hw (haccount _ _) (LendPool.of_whenNotPaused h)
  | withdraw caller asset amount recipient =>
    obtain ⟨⟨_, _⟩, h, rfl⟩ := map_eq_ok.mp h
    exact withdraw_rebalanced hw (LendPool.of_whenNotPaused h)
  | borrow caller asset amount nftAsset nftTokenId onBehalfOf =>
    exact borrow_rebalanced hw (LendPool.of_whenNotPaused h)
  | repay caller nftAsset nftTokenId amount =>
    obtain ⟨⟨_, _⟩, h, rfl⟩ := map_eq_ok.mp h
    exact repay_rebalanced hw hf (haccount _ _) (LendPool.of_whenNotPaused h)
  | buyItNow caller nftAsset nftTokenId buyItNowPrice onBehalfOf =>
    exact buyItNow_rebalanced hw (haccount _ _) (LendPool.of_whenNotPaused h)
  | redeem caller nftAsset nftTokenId amount buyItNowFine =>
    obtain ⟨⟨_, _⟩, h, rfl⟩ := map_eq_ok.mp h
    exact redeem_rebalanced hw (haccount _ _) (LendPool.of_whenNotPaused h)
  | liquidate caller nftAsset nftTokenId amount =>
    obtain ⟨⟨_, _⟩, h, rfl⟩ := map_eq_ok.mp h
    exact liquidate_rebalanced hw hf (haccount _ _) (LendPool.of_whenNotPaused h)
  | transferCToken | transferCTokenFrom | approveCToken | approveDelegation | createCNFT =>
    cases hpool

/-- An operation rebalances one reserve and leaves the others alone, or it is not one of the
pool's and disturbs no reserve that is listed. -/
theorem Operation.disturbs {operation : Operation} (hreg : Regular s)
    (h : operation.run s = .ok s') :
    (∃ call, operation = .user call ∧ call.entersPool = true ∧ ∃ li vi cTokens cash debt,
      Rebalanced s (call.reserve s) li vi cTokens cash debt s') ∨
    (operation.entersPool = false ∧
      (∀ asset, (s'.cTokens asset).scaledTotalSupply = (s.cTokens asset).scaledTotalSupply ∧
        (s'.pool.reserves asset).currentLiquidityRate =
          (s.pool.reserves asset).currentLiquidityRate) ∧
      ∀ asset, (s.pool.reserves asset).cTokenAddress ≠ .zero → Undisturbed s s' asset) := by
  cases operation with
  | user call =>
    by_cases hpool : call.entersPool = true
    · exact .inl ⟨call, rfl, hpool,
        UserCall.rebalanced hreg.sound.wired hreg.book.toFiled hpool h⟩
    · have haside : call.entersPool = false := Bool.eq_false_iff.mpr hpool
      have hsupply := UserCall.supply_kept haside h
      have hkept : Kept s s' := by
        rcases UserCall.cases hreg.sound.wired hreg.book.toFiled h with haction | ⟨-, hkept⟩
        · exact absurd haction.entersPool hpool
        · exact hkept
      obtain ⟨_, _, _, hs⟩ := UserCall.frame haside h
      refine .inr ⟨haside, fun asset => ⟨hsupply asset, by rw [hs]⟩, fun asset _ => ?_⟩
      refine ⟨hsupply asset, congrArg ERC20.totalSupply (hkept.ledgers asset), ?_, ?_, ?_, ?_, ?_,
        ?_⟩ <;>
        rw [hs]
  | token call =>
    have hcash := fun asset => TokenCall.cash_le hreg.sound.guarded h asset
      (show (Address.cToken asset).isExternal = false from rfl)
    obtain ⟨_, _, _, _, hs⟩ := TokenCall.frame h
    refine .inr ⟨rfl, fun asset => ?_, fun asset _ => ⟨?_, ?_, ?_, ?_, ?_, ?_, ?_, hcash asset⟩⟩ <;>
      rw [hs]
    exact ⟨rfl, rfl⟩
  | admin call =>
    have hframe := AdminCall.frame h
    have hdeposits : ∀ asset, (s'.cTokens asset).scaledTotalSupply =
        (s.cTokens asset).scaledTotalSupply :=
      fun asset => congrArg ERC20.totalSupply (hframe.ledgers asset)
    have hrates := AdminCall.rates_kept h
    refine .inr ⟨rfl, fun asset => ⟨hdeposits asset, (hrates asset).1⟩, fun asset hlisted => ?_⟩
    have hsame := AdminCall.sameAccrual h hlisted
    obtain ⟨_, _, _, hs⟩ := hframe.shape
    refine ⟨hdeposits asset, ?_, hsame.liquidityIndex, hsame.variableBorrowIndex,
      (hrates asset).1, (hrates asset).2, hsame.lastUpdateTimestamp, ?_⟩ <;>
      rw [hs]
  | world event =>
    obtain ⟨_, _, _, _, _, -, hs⟩ := WorldEvent.frame h
    refine .inr ⟨rfl, fun asset => ?_, fun asset _ => ⟨?_, ?_, ?_, ?_, ?_, ?_, ?_, ?_⟩⟩ <;>
      rw [hs]
    exact ⟨rfl, rfl⟩

theorem Unissued.step {operation : Operation} (hun : Unissued s) (hreg : Regular s)
    (h : operation.run s = .ok s') : Unissued s' := by
  intro asset hunlisted
  rcases Operation.disturbs hreg h with ⟨call, -, -, li, vi, cTokens, cash, debt, hpart⟩ |
    ⟨haside, hkept, -⟩
  · rw [hpart.step.cTokenAddress] at hunlisted
    have hne : asset ≠ call.reserve s := by
      rintro rfl
      rw [hpart.accrual.listed.cToken] at hunlisted
      cases hunlisted
    have hsame := hpart.undisturbed hne
    rw [hsame.deposits, hsame.liquidityRate]
    exact hun asset hunlisted
  · have hold : (s.pool.reserves asset).cTokenAddress = .zero := by
      rcases hreg.cases h with haction | ⟨-, hside⟩
      · rw [haction.entersPool] at haside
        cases haside
      · by_contra hlisted
        exact hside.listed asset hlisted hunlisted
    rw [(hkept asset).1, (hkept asset).2]
    exact hun asset hold

theorem unissued_of_reachable (h : Reachable operations s) : Unissued s := by
  apply h.invariant
  · intro s hs asset _
    rw [hs.cTokens, hs.pool]
    exact ⟨rfl, rfl⟩
  · exact fun s operation s' hs hun hrun => hun.step (regular_of_reachable hs) hrun

/-! ### A step -/

def Operation.worksOn (operation : Operation) (s : State) (asset : Address) : Bool :=
  match operation with
  | .user call => call.entersPool && decide (call.reserve s = asset)
  | _ => false

theorem Operation.rebalanced_of_worksOn {operation : Operation} (hreg : Regular s)
    (h : operation.run s = .ok s') (hworks : operation.worksOn s asset = true) :
    ∃ li vi cTokens cash debt, Rebalanced s asset li vi cTokens cash debt s' := by
  rcases Operation.disturbs hreg h with ⟨call, rfl, -, hpart⟩ | ⟨haside, -, -⟩
  · simp only [Operation.worksOn, Bool.and_eq_true, decide_eq_true_eq] at hworks
    rw [← hworks.2]
    exact hpart
  · cases operation with
    | user call =>
      have haside' : call.entersPool = false := haside
      simp [Operation.worksOn, haside'] at hworks
    | _ => cases hworks

theorem Operation.kept_of_not_worksOn {operation : Operation} (hreg : Regular s)
    (h : operation.run s = .ok s') (hworks : ¬operation.worksOn s asset = true) :
    ((s'.cTokens asset).scaledTotalSupply = (s.cTokens asset).scaledTotalSupply ∧
      (s'.pool.reserves asset).currentLiquidityRate =
        (s.pool.reserves asset).currentLiquidityRate) ∧
    ((s.pool.reserves asset).cTokenAddress ≠ .zero → Undisturbed s s' asset) := by
  rcases Operation.disturbs hreg h with ⟨call, rfl, hpool, _, _, _, _, _, hpart⟩ |
    ⟨-, hkept, hlisted⟩
  · have hne : asset ≠ call.reserve s := by
      rintro rfl
      simp [Operation.worksOn, hpool] at hworks
    have hsame := hpart.undisturbed hne
    exact ⟨⟨hsame.deposits, hsame.liquidityRate⟩, fun _ => hsame⟩
  · exact ⟨hkept asset, hlisted asset⟩

/-- What a step may lose to roundings in a reserve. -/
def stepRoundings (asset : Address) (t : Transition State Operation) : ℚ :=
  if t.label.worksOn t.pre asset then t.pre.roundings t.post asset else 0

/-- The reserve factor that the stored rates are made with, after a step. -/
def rateFactorAfter (asset : Address) (factor : Nat) (t : Transition State Operation) : Nat :=
  if t.label.worksOn t.pre asset then t.pre.reserveFactor asset else factor

/-- A step that updates the reserve takes no more for the treasury than the factor of its rates
left over. -/
def FairStep (asset : Address) (factor : Nat) (t : Transition State Operation) : Prop :=
  t.label.worksOn t.pre asset = true → TakesNoMore t.pre asset factor

instance (asset : Address) (factor : Nat) (t : Transition State Operation) :
    Decidable (FairStep asset factor t) := inferInstanceAs (Decidable (_ → _))

theorem CoveredUpTo.step {operation : Operation} (hs : CoveredUpTo s asset factor slack)
    (hreg : Regular s) (hun : Unissued s) (hfair : FairStep asset factor ⟨s, operation, s'⟩)
    (h : operation.run s = .ok s') :
    CoveredUpTo s' asset (rateFactorAfter asset factor ⟨s, operation, s'⟩)
      (slack + stepRoundings asset ⟨s, operation, s'⟩) := by
  unfold stepRoundings rateFactorAfter
  by_cases hworks : operation.worksOn s asset = true
  · obtain ⟨li, vi, cTokens, cash, debt, hpart⟩ := operation.rebalanced_of_worksOn hreg h hworks
    rw [if_pos hworks, if_pos hworks]
    exact hpart.coveredUpTo hs (hfair hworks)
  · obtain ⟨⟨hsupply, hrate⟩, hlisted⟩ := operation.kept_of_not_worksOn hreg h hworks
    rw [if_neg hworks, if_neg hworks, add_zero]
    by_cases hzero : (s.pool.reserves asset).cTokenAddress = .zero
    · obtain ⟨hnone, hidle⟩ := hun asset hzero
      apply coveredUpTo_of_unissued hs.slack_nonneg
      · rw [hsupply, hnone]
      · rw [hrate, hidle]
    · exact (hlisted hzero).coveredUpTo hs

theorem Genesis.coveredUpTo (h : Genesis s) : CoveredUpTo s asset factor 0 := by
  apply coveredUpTo_of_unissued (le_refl 0)
  · rw [h.cTokens]
    rfl
  · rw [h.pool]
    rfl

end Confetti
