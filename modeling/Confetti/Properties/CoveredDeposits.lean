import Confetti.Invariants.DepositorSupply
import Confetti.Invariants.Solvency
import Confetti.Library.Drift
import Confetti.Protocol.Deployment

/-! The reserves stay solvent. Depositors can never claim more than the cash and the debts of
their reserve, up to the roundings of its operations, as long as nobody raises the reserve
factor over interest that has accrued under a lower one. -/
namespace Confetti
open Outcome TransitionSystem HalfUp ReserveLogic

variable {s s' : State} {asset : Address} {factor : Nat} {slack : ℚ}
  {history : List (Transition State Operation)}

/-- The factor of a reserve is not raised while depositors earn. -/
def FactorHeld (asset : Address) (s s' : State) : Prop :=
  (s.pool.reserves asset).currentLiquidityRate = 0 ∨
    (s'.pool.reserves asset).configuration.getReserveFactor ≤
      (s.pool.reserves asset).configuration.getReserveFactor

instance (asset : Address) (s s' : State) : Decidable (FactorHeld asset s s') :=
  inferInstanceAs (Decidable (_ ∨ _))

/-- Depositors earn nothing, or the configured factor leaves them what their rate promises. -/
def Honoured (s : State) (asset : Address) (factor : Nat) : Prop :=
  (s.pool.reserves asset).currentLiquidityRate = 0 ∨ s.reserveFactor asset ≤ factor

theorem Honoured.takesNoMore (h : Honoured s asset factor) : TakesNoMore s asset factor := by
  intro part hpart fair hfair
  obtain ⟨li, hli, hpart⟩ := bind_eq_ok.mp hpart
  obtain ⟨vi, hvi, rfl⟩ := bind_pure_eq_ok.mp hpart
  obtain ⟨li', hli', hfair⟩ := bind_eq_ok.mp hfair
  obtain ⟨vi', hvi', rfl⟩ := bind_pure_eq_ok.mp hfair
  obtain rfl := Except.ok.inj (hli.symm.trans hli')
  obtain rfl := Except.ok.inj (hvi.symm.trans hvi')
  rcases h with hidle | hle
  · have hsame : vi = (s.pool.reserves asset).variableBorrowIndex := by
      rw [updatedBorrowIndex, if_neg (by simp [hidle])] at hvi
      exact (pure_eq_ok.mp hvi).symm
    unfold State.interestUpTo interestCharged
    rw [hsame, Nat.sub_self]
    simp [treasuryShare]
  · unfold treasuryShare
    have hamount := halfUp_mono (Nat.mul_le_mul_left (s.interestUpTo asset vi) hle)
      PERCENTAGE_FACTOR
    exact halfUp_mono (Nat.mul_le_mul_right RAY hamount) li

theorem Honoured.step {operation : Operation} (hs : Honoured s asset factor) (hreg : Regular s)
    (hheld : FactorHeld asset s s') (h : operation.run s = .ok s') :
    Honoured s' asset (rateFactorAfter asset factor ⟨s, operation, s'⟩) := by
  unfold rateFactorAfter
  by_cases hworks : operation.worksOn s asset = true
  · obtain ⟨li, vi, cTokens, cash, debt, hpart⟩ := operation.rebalanced_of_worksOn hreg h hworks
    rw [if_pos hworks]
    right
    unfold State.reserveFactor
    rw [hpart.step.configuration]
  · obtain ⟨⟨-, hrate⟩, -⟩ := operation.kept_of_not_worksOn hreg h hworks
    rw [if_neg hworks]
    unfold Honoured
    rw [hrate]
    rcases hs with hidle | hle
    · exact .inl hidle
    · exact hheld.imp_right fun hheld => hheld.trans hle

/-- A run that keeps its promises to depositors, up to the roundings. -/
theorem CoveredUpTo.run (hupTo : CoveredUpTo s asset factor slack) (hs : Reachable operations s)
    (hhonoured : Honoured s asset factor) (hrun : Run operations s history s')
    (hfactor : ∀ t ∈ history, FactorHeld asset t.pre t.post) :
    ∃ factor', CoveredUpTo s' asset factor' (slack + drift (stepRoundings asset) history) := by
  have hstep : ∀ factor m (operation : Operation) m' slack, Reachable operations m →
      FactorHeld asset m m' → CoveredUpTo m asset factor slack ∧ Honoured m asset factor →
      operation.run m = .ok m' →
        CoveredUpTo m' asset (rateFactorAfter asset factor ⟨m, operation, m'⟩)
          (slack + stepRoundings asset ⟨m, operation, m'⟩) ∧
        Honoured m' asset (rateFactorAfter asset factor ⟨m, operation, m'⟩) := by
    intro factor m operation m' slack hm hheld hupTo h
    have hreg := regular_of_reachable hm
    have hun := unissued_of_reachable hm
    have hfair : FairStep asset factor ⟨m, operation, m'⟩ := fun _ => hupTo.2.takesNoMore
    exact ⟨hupTo.1.step hreg hun hfair h, hupTo.2.step hreg hheld h⟩
  have hallowed : AllowedWith (rateFactorAfter asset)
      (fun _ t => FactorHeld asset t.pre t.post) factor history :=
    allowedWith_of_forall factor fun t ht _ => hfactor t ht
  exact ⟨_, (Run.drifts (fun factor m slack => CoveredUpTo m asset factor slack ∧
    Honoured m asset factor) hstep hrun hs hallowed ⟨hupTo, hhonoured⟩).1⟩

private theorem claims_covered (hs : Genesis s) (hrun : Run operations s history s')
    (asset : Address) (hfactor : ∀ t ∈ history, FactorHeld asset t.pre t.post)
    (holders : Finset Address) :
    s'.claimsOf asset holders ≤ s'.cashHeld asset + s'.debtsWorth asset +
      drift (stepRoundings asset) history * s'.depositIndex asset := by
  have hreachable : Reachable operations s := .initial hs
  have hupTo : CoveredUpTo s asset 0 0 := hs.coveredUpTo
  have hidle : Honoured s asset 0 := by
    left
    rw [hs.pool]
    rfl
  obtain ⟨_, hupTo'⟩ := hupTo.run hreachable hidle hrun hfactor
  have hcovered := hupTo'.covered
  rw [zero_add] at hcovered
  have hholders := positionsCovered_of_reachable (hrun.reachable hreachable) asset holders
  have hworth : s'.claimsOf asset holders ≤ s'.depositsWorth asset := by
    have hindex := depositIndex_nonneg s' asset
    unfold State.claimsOf State.depositsWorth CToken.scaledTotalSupply
    gcongr
  exact hworth.trans hcovered

/-- Whoever the holders are, what they claim together is covered by cash and debts, but for the
roundings of the run. -/
theorem deposits_stay_covered (hs : Genesis s) (hrun : Run operations s history s')
    (asset : Address) (hfactor : ∀ t ∈ history, FactorHeld asset t.pre t.post)
    (holders : Finset Address) :
    s'.claimsOf asset holders ≤ s'.cashHeld asset + s'.debtsWorth asset +
      drift (stepRoundings asset) history * s'.depositIndex asset :=
  claims_covered hs hrun asset hfactor holders

/-- A market with a loan, and a withdrawal from it a day later. -/
def sampleNextDay : List Operation :=
  sampleLending ++ [.world (.tick 86400),
    .user (.withdraw 1 sampleMarket.asset (10 ^ 18) (.account 1))]

theorem deposits_stay_covered_day :
    let s' := replayed operations sampleWorld sampleNextDay
    s'.claimsOf sampleMarket.asset {.account 1, .account 9} ≤
      s'.cashHeld sampleMarket.asset + s'.debtsWorth sampleMarket.asset +
        drift (stepRoundings sampleMarket.asset) (trace operations sampleWorld sampleNextDay) *
          s'.depositIndex sampleMarket.asset :=
  deposits_stay_covered (State.fresh_genesis (by decide) _ _ _)
    (trace_run sampleWorld sampleNextDay) sampleMarket.asset (by decide +kernel) _

/-! ### How much the roundings come to -/

/-- A reserve of less than a billion units of 18 decimals, with a rate below one hundred
percent and a debt index that has not run away. -/
structure Moderate (s : State) (asset : Address) : Prop where
  clock : s.timestamp < 2 ^ 40
  rate : (s.pool.reserves asset).currentVariableBorrowRate ≤ RAY
  amounts : s.depositsWorth asset + s.debtsWorth asset + s.cashHeld asset ≤ RAY
  indexes : s.debtIndex asset ≤ 10 * s.depositIndex asset

instance (s : State) (asset : Address) : Decidable (Moderate s asset) :=
  decidable_of_iff (s.timestamp < 2 ^ 40 ∧
    (s.pool.reserves asset).currentVariableBorrowRate ≤ RAY ∧
      s.depositsWorth asset + s.debtsWorth asset + s.cashHeld asset ≤ RAY ∧
        s.debtIndex asset ≤ 10 * s.depositIndex asset)
    ⟨fun ⟨hclock, hrate, hamounts, hindexes⟩ => ⟨hclock, hrate, hamounts, hindexes⟩,
      fun ⟨hclock, hrate, hamounts, hindexes⟩ => ⟨hclock, hrate, hamounts, hindexes⟩⟩

/-- Since when interest is outstanding. -/
def State.accruesFrom (s : State) (asset : Address) : Nat :=
  let reserve := s.pool.reserves asset
  if reserve.currentLiquidityRate = 0 then s.timestamp
  else min reserve.lastUpdateTimestamp s.timestamp

theorem accruesFrom_le (s : State) (asset : Address) : s.accruesFrom asset ≤ s.timestamp := by
  unfold State.accruesFrom
  dsimp only
  split
  · exact Nat.le_refl _
  · exact Nat.min_le_right _ _

theorem rateRounding_le (h : Moderate s asset) :
    s.rateRounding asset / (SECONDS_PER_YEAR * RAY) ≤ 1 := by
  have hray := RAY_pos_rat
  have hyear := year_pos
  have hrate : ((s.pool.reserves asset).currentVariableBorrowRate : ℚ) ≤ RAY := by
    exact_mod_cast h.rate
  have hdeposits : 0 ≤ s.depositsWorth asset := by
    have hindex := depositIndex_nonneg s asset
    unfold State.depositsWorth
    positivity
  have hcash := cashHeld_nonneg s asset
  have hdebts := debtsWorth_nonneg s asset
  have hamounts := h.amounts
  have hpart : ((s.pool.reserves asset).currentVariableBorrowRate : ℚ) / (2 * RAY) ≤ 1 / 2 := by
    rw [div_le_iff₀ (by positivity)]
    linarith
  have hover : (2 + ((s.pool.reserves asset).currentVariableBorrowRate : ℚ) / (2 * RAY)) *
      (s.cashHeld asset + s.debtsWorth asset + 1 / 2) ≤ (2 + 1 / 2) * (RAY + 1 / 2) := by
    gcongr
    linarith
  have hsmall : (WAD : ℚ) / 2 + RAY / 2 + (2 + 1 / 2) * (RAY + 1 / 2) ≤ SECONDS_PER_YEAR * RAY := by
    norm_num [WAD, RAY, SECONDS_PER_YEAR]
  rw [div_le_one (by positivity)]
  unfold State.rateRounding
  dsimp only
  linarith

/-- Two and a half units, and two for every second. -/
theorem accrualRounding_le (hm : Moderate s asset) {li vi : Nat} {cTokens : Address → CToken}
    (ha : Accrual s asset li vi cTokens) :
    s.accrualRounding asset ≤ 5 / 2 + 2 * ((s.timestamp : ℚ) - s.accruesFrom asset) := by
  have hray := RAY_pos_rat
  unfold State.accrualRounding State.accruesFrom
  dsimp only
  by_cases hrate : (s.pool.reserves asset).currentLiquidityRate = 0
  · rw [if_pos hrate, if_pos hrate]
    norm_num
  · rw [if_neg hrate, if_neg hrate]
    have hli := ha.liquidityIndex
    rw [updatedLiquidityIndex, if_pos (Nat.pos_of_ne_zero hrate)] at hli
    obtain ⟨_, hcumulated, -, -⟩ := accumulate_eq_ok.mp hli
    obtain ⟨hle, -⟩ := calculateLinearInterest_eq_ok.mp hcumulated
    rw [Nat.min_eq_left hle, Nat.cast_sub hle]
    have hperiod : (0 : ℚ) ≤ (s.timestamp : ℚ) - (s.pool.reserves asset).lastUpdateTimestamp :=
      sub_nonneg.mpr (by exact_mod_cast hle)
    have hscaled : ∀ (scaled index : Nat), RAY ≤ index →
        (scaled : ℚ) ≤ scaled * ((index : ℚ) / RAY) := by
      intro scaled index hindex
      apply le_mul_of_one_le_right (Nat.cast_nonneg _)
      rw [le_div_iff₀ hray, one_mul]
      exact_mod_cast hindex
    have hdeposits : ((s.cTokens asset).scaledTotalSupply : ℚ) ≤ s.depositsWorth asset :=
      hscaled _ _ ha.listed.RAY_le_liquidityIndex
    have hdebts : ((s.debtTokens asset).scaledTotalSupply : ℚ) ≤ s.debtsWorth asset :=
      hscaled _ _ ha.listed.RAY_le_variableBorrowIndex
    have hcash := cashHeld_nonneg s asset
    have hamounts := hm.amounts
    have hpart : (((s.cTokens asset).scaledTotalSupply : ℚ) +
        (s.debtTokens asset).scaledTotalSupply) / (2 * RAY) ≤ 1 / 2 := by
      rw [div_le_iff₀ (by positivity)]
      linarith
    have hnonneg : (0 : ℚ) ≤ (s.cTokens asset).scaledTotalSupply := Nat.cast_nonneg _
    have hshare : s.debtsWorth asset / RAY ≤ 1 := by
      rw [div_le_one hray]
      linarith
    have hseconds := mul_le_mul_of_nonneg_left (add_le_add hshare (rateRounding_le hm)) hperiod
    linarith

theorem PoolStep.accruesFrom {li vi : Nat} (h : PoolStep s asset li vi s')
    (hclock : s.timestamp < 2 ^ 40) : s'.accruesFrom asset = s.timestamp := by
  obtain ⟨_, _, hpool⟩ := h.pool
  have hlast : (s'.pool.reserves asset).lastUpdateTimestamp = s.timestamp := by
    rw [hpool, LendPoolStorage.setReserve_reserves, Function.update_self]
    exact Nat.mod_eq_of_lt hclock
  unfold State.accruesFrom
  dsimp only
  rw [hlast, h.world.timestamp, Nat.min_self, ite_self]

theorem accruesFrom_mono (htime : s.timestamp ≤ s'.timestamp)
    (hrate : (s'.pool.reserves asset).currentLiquidityRate =
      (s.pool.reserves asset).currentLiquidityRate)
    (hlast : (s.pool.reserves asset).currentLiquidityRate ≠ 0 →
      (s'.pool.reserves asset).lastUpdateTimestamp =
        (s.pool.reserves asset).lastUpdateTimestamp) :
    s.accruesFrom asset ≤ s'.accruesFrom asset := by
  unfold State.accruesFrom
  dsimp only
  rw [hrate]
  split
  · exact htime
  · rename_i hne
    rw [hlast hne]
    omega

theorem Rebalanced.roundings_le {li vi cash debt : Nat} {cTokens : Address → CToken}
    (h : Rebalanced s asset li vi cTokens cash debt s') (hm : Moderate s asset)
    (hm' : Moderate s' asset) :
    s.roundings s' asset ≤ 9 + 2 * ((s'.accruesFrom asset : ℚ) - s.accruesFrom asset) := by
  have hray := RAY_pos_rat
  have hone : 1 ≤ s'.depositIndex asset := by
    rw [h.step.depositIndex, le_div_iff₀ hray, one_mul]
    exact_mod_cast (h.accrual.accrued_listed 0).RAY_le_liquidityIndex
  have hrounding := accrualRounding_le hm h.accrual
  have hratio : s'.debtIndex asset / (2 * s'.depositIndex asset) ≤ 5 := by
    have hindexes := hm'.indexes
    rw [div_le_iff₀ (by linarith)]
    linarith
  rw [h.step.accruesFrom hm.clock]
  unfold State.roundings
  linarith

/-- Nine units for an operation, and two for every second that its accrual catches up with. -/
theorem stepRoundings_le {operation : Operation} (hreg : Regular s) (hun : Unissued s)
    (hm : Moderate s asset) (hm' : Moderate s' asset) (h : operation.run s = .ok s') :
    stepRoundings asset ⟨s, operation, s'⟩ ≤ (if operation.worksOn s asset then 9 else 0) +
      2 * ((s'.accruesFrom asset : ℚ) - s.accruesFrom asset) := by
  have htime := Operation.timestamp_le hreg.sound.wired hreg.book.toFiled h
  unfold stepRoundings
  dsimp only
  by_cases hworks : operation.worksOn s asset = true
  · obtain ⟨li, vi, cTokens, cash, debt, hpart⟩ := operation.rebalanced_of_worksOn hreg h hworks
    rw [if_pos hworks, if_pos hworks]
    exact hpart.roundings_le hm hm'
  · rw [if_neg hworks, if_neg hworks]
    have hmono : s.accruesFrom asset ≤ s'.accruesFrom asset := by
      obtain ⟨⟨-, hrate⟩, hlisted⟩ := operation.kept_of_not_worksOn hreg h hworks
      apply accruesFrom_mono htime hrate
      intro hearns
      by_cases hzero : (s.pool.reserves asset).cTokenAddress = .zero
      · exact absurd (hun asset hzero).2 hearns
      · exact (hlisted hzero).lastUpdate
    have hmono' : (s.accruesFrom asset : ℚ) ≤ s'.accruesFrom asset := by exact_mod_cast hmono
    linarith

/-- In a moderate reserve what depositors can claim beyond cash and debts is at most nine
units for each operation on the reserve and two for each second, in scaled units. -/
theorem missing_deposits_bounded (hs : Genesis s) (hrun : Run operations s history s')
    (asset : Address) (hfactor : ∀ t ∈ history, FactorHeld asset t.pre t.post)
    (hmoderate : ∀ t ∈ history, Moderate t.pre asset ∧ Moderate t.post asset)
    (holders : Finset Address) :
    s'.claimsOf asset holders ≤ s'.cashHeld asset + s'.debtsWorth asset +
      (9 * history.countP (fun t => t.label.worksOn t.pre asset) +
        2 * ((s'.timestamp : ℚ) - s.timestamp)) * s'.depositIndex asset := by
  have hclaims := claims_covered hs hrun asset hfactor holders
  have hdrift : drift (stepRoundings asset) history ≤
      9 * history.countP (fun t => t.label.worksOn t.pre asset) +
        2 * ((s'.accruesFrom asset : ℚ) - s.accruesFrom asset) := by
    apply Run.drift_le (fun t => Moderate t.pre asset ∧ Moderate t.post asset)
      (fun m => (m.accruesFrom asset : ℚ)) _ hrun (.initial hs) hmoderate
    intro m operation m' hm hallowed h
    exact stepRoundings_le (regular_of_reachable hm) (unissued_of_reachable hm) hallowed.1
      hallowed.2 h
  have hstart : s.accruesFrom asset = s.timestamp := by
    unfold State.accruesFrom
    rw [hs.pool]
    rfl
  have hend : (s'.accruesFrom asset : ℚ) ≤ s'.timestamp := by
    exact_mod_cast accruesFrom_le s' asset
  rw [hstart] at hdrift
  have hindex := depositIndex_nonneg s' asset
  calc
    s'.claimsOf asset holders ≤ s'.cashHeld asset + s'.debtsWorth asset +
        drift (stepRoundings asset) history * s'.depositIndex asset := hclaims
    _ ≤ _ := by
      gcongr
      linarith

theorem missing_deposits_bounded_day :
    let s' := replayed operations sampleWorld sampleNextDay
    s'.claimsOf sampleMarket.asset {.account 1, .account 9} ≤
      s'.cashHeld sampleMarket.asset + s'.debtsWorth sampleMarket.asset +
        (9 * (trace operations sampleWorld sampleNextDay).countP
            (fun t => t.label.worksOn t.pre sampleMarket.asset) +
          2 * ((s'.timestamp : ℚ) - sampleWorld.timestamp)) *
            s'.depositIndex sampleMarket.asset :=
  missing_deposits_bounded (State.fresh_genesis (by decide) _ _ _)
    (trace_run sampleWorld sampleNextDay) sampleMarket.asset (by decide +kernel)
    (by decide +kernel) _

end Confetti
