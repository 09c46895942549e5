import Confetti.Invariants.Book
import Confetti.Invariants.Solvency
import Confetti.Library.Drift
import Confetti.Protocol.Deployment

/-! A new reserve factor and the interest that accrued before it. The configurator does
not accrue first, so the treasury's share of the past is taken with the new factor, whatever
the stored rates have left over for it. -/
namespace Confetti
open Outcome TransitionSystem HalfUp ReserveLogic LendPoolConfigurator

def FactorChange (change : State → Except Revert State) (asset : Address) (factor : Nat) : Prop :=
  change = (fun s => setReserveFactor s [asset] factor) ∨
    change = fun s => batchConfigReserve s [⟨asset, factor⟩]

/-- The factor that the stored rates of a reserve were made with: the configured one at the last
operation on the reserve. -/
def rateFactor (asset : Address) (history : List (Transition State Operation)) : Nat :=
  carried (rateFactorAfter asset) 0 history

def RateMadeWith (s : State) (asset : Address) (factor : Nat) : Prop :=
  (s.pool.reserves asset).currentLiquidityRate = 0 ∨
    ∃ (interestRate : InterestRate) (cash debt : Nat) (variableRate : Nat),
      interestRate.calculateInterestRates cash debt factor =
        .ok ((s.pool.reserves asset).currentLiquidityRate, variableRate)

def creditedBetween (s s' : State) (asset : Address) : Nat :=
  halfUp ((s'.cTokens asset).scaledTotalSupply * (s'.pool.reserves asset).liquidityIndex) RAY -
    halfUp ((s.cTokens asset).scaledTotalSupply * (s.pool.reserves asset).liquidityIndex) RAY

/-- The credits are within the interest charged, up to the roundings of the update and the
growth of what earlier roundings have left uncovered. -/
def CreditsCharged (s : State) (asset : Address) (now : Nat) (slack : ℚ) (s' : State) : Prop :=
  (creditedBetween s s' asset : ℚ) ≤
    s.interestUpTo asset (s'.pool.reserves asset).variableBorrowIndex +
      slack * (s'.depositIndex asset - s.depositIndex asset) +
        (s.atTime now).accrualRounding asset * s'.depositIndex asset + 2

/-- A change before an update of the reserve, leading to `s₁`, is as good as one after it,
leading to `s₂`: the update splits the interest with the factor that the rates were made with. -/
structure ChangeNeutral (s : State) (asset : Address) (made : Nat) (s₁ s₂ : State) : Prop where
  liquidityIndex : (s₁.pool.reserves asset).liquidityIndex =
    (s₂.pool.reserves asset).liquidityIndex
  variableBorrowIndex : (s₁.pool.reserves asset).variableBorrowIndex =
    (s₂.pool.reserves asset).variableBorrowIndex
  treasury : (s₁.cTokens asset).scaledBalanceOf (s₁.cTokens asset).treasury =
    (s₂.cTokens asset).scaledBalanceOf (s₂.cTokens asset).treasury
  supply : (s₁.cTokens asset).scaledTotalSupply = (s₂.cTokens asset).scaledTotalSupply
  split : (s₁.cTokens asset).scaledTotalSupply = (s.cTokens asset).scaledTotalSupply +
    treasuryShare made (s.interestUpTo asset (s₁.pool.reserves asset).variableBorrowIndex)
      (s₁.pool.reserves asset).liquidityIndex

/-- Of the interest accrued since the last update, the configured factor and the new one give
the treasury what the factor of the rates has left over for it. -/
def SameShare (s : State) (asset : Address) (now made factor : Nat) : Prop :=
  ∀ li vi, updatedLiquidityIndex (s.pool.reserves asset) now = .ok li →
    updatedBorrowIndex (s.pool.reserves asset) (s.debtTokens asset).scaledTotalSupply now =
        .ok vi →
      treasuryShare (s.reserveFactor asset) (s.interestUpTo asset vi) li =
          treasuryShare made (s.interestUpTo asset vi) li ∧
        treasuryShare factor (s.interestUpTo asset vi) li =
          treasuryShare made (s.interestUpTo asset vi) li

variable {s₀ s s' s₁ s₂ : State} {asset : Address} {now factor made li vi : Nat} {slack : ℚ}
  {cTokens : Address → CToken} {change : State → Except Revert State}
  {history : List (Transition State Operation)}

/-! ### The factor of the stored rates -/

theorem RateMadeWith.step {operation : Operation} (hs : RateMadeWith s asset made)
    (hreg : Regular s) (h : operation.run s = .ok s') :
    RateMadeWith s' asset (rateFactorAfter asset made ⟨s, operation, s'⟩) := by
  unfold rateFactorAfter
  by_cases hworks : operation.worksOn s asset = true
  · obtain ⟨li, vi, cTokens, cash, debt, hpart⟩ := operation.rebalanced_of_worksOn hreg h hworks
    obtain ⟨interestRate, hrates⟩ := hpart.rates
    rw [if_pos hworks]
    exact .inr ⟨interestRate, cash, debt, _, hrates⟩
  · obtain ⟨⟨-, hrate⟩, -⟩ := operation.kept_of_not_worksOn hreg h hworks
    rw [if_neg hworks]
    unfold RateMadeWith
    rw [hrate]
    exact hs

theorem rateFactor_made (hs : Genesis s₀) (hrun : Run operations s₀ history s) :
    RateMadeWith s asset (rateFactor asset history) := by
  have hreachable : Reachable operations s₀ := .initial hs
  have hstart : RateMadeWith s₀ asset 0 := by
    left
    rw [hs.pool]
    rfl
  have hstep : ∀ made m (operation : Operation) m', Reachable operations m → True →
      RateMadeWith m asset made → operation.run m = .ok m' →
        RateMadeWith m' asset (rateFactorAfter asset made ⟨m, operation, m'⟩) :=
    fun _ m _ m' hm _ hmade h => hmade.step (regular_of_reachable hm) h
  have hallowed : AllowedWith (rateFactorAfter asset) (fun _ _ => True) 0 history :=
    allowedWith_of_forall 0 fun _ _ _ => trivial
  exact Run.preserves_carried hstep hrun hreachable hallowed hstart

/-! ### Both orders -/

theorem FactorChange.eq_ok (h : FactorChange change asset factor) :
    change s = .ok s' ↔ ∃ config,
      (s.pool.reserves asset).configuration.setReserveFactor factor = .ok config ∧
        s' = LendPool.setReserveConfiguration s asset config := by
  have hmodify : change s =
      modifyReserve (fun config => config.setReserveFactor factor) s asset := by
    rcases h with rfl | rfl
    · exact bind_pure _
    · exact bind_pure _
  rw [hmodify]
  exact bind_pure_eq_ok

theorem configured_reserve (config : ReserveConfigurationMap) :
    (LendPool.setReserveConfiguration s asset config).pool.reserves asset =
      { s.pool.reserves asset with configuration := config } := by
  unfold LendPool.setReserveConfiguration
  rw [LendPoolStorage.setReserve_reserves, Function.update_self]

theorem wired_configured (hw : Wired s) (config : ReserveConfigurationMap) :
    Wired (LendPool.setReserveConfiguration s asset config) where
  reserve := wired_setReserve hw.reserve ((hw.reserve asset).reconfigured _ _ _)
  nft := hw.nft
  proxy := hw.proxy

/-- The state an accrual leaves, in terms of what it credits to the treasury. -/
structure Accrued (s : State) (asset : Address) (share li vi : Nat) (s' : State) : Prop where
  liquidityIndex : (s'.pool.reserves asset).liquidityIndex = li
  variableBorrowIndex : (s'.pool.reserves asset).variableBorrowIndex = vi
  treasury : (s'.cTokens asset).scaledBalanceOf (s'.cTokens asset).treasury =
    (s.cTokens asset).scaledBalanceOf (s.cTokens asset).treasury + share
  supply : (s'.cTokens asset).scaledTotalSupply = (s.cTokens asset).scaledTotalSupply + share

theorem Accrual.accrued (h : Accrual s asset li vi cTokens) :
    Accrued s asset (treasuryShare (s.pool.reserves asset).configuration.getReserveFactor
      (s.interestUpTo asset vi) li) li vi (s.accrued asset li vi cTokens) := by
  have hcTokens := mintToTreasury_spec h.listed.cToken h.treasury
  refine ⟨accrued_liquidityIndex, accrued_variableBorrowIndex, ?_, ?_⟩
  · simp [State.accrued, hcTokens, CToken.credited, CToken.scaledBalanceOf, State.interestUpTo,
      DebtToken.scaledTotalSupply]
  · simp [State.accrued, hcTokens, CToken.credited, CToken.scaledTotalSupply, State.interestUpTo,
      DebtToken.scaledTotalSupply]

theorem Accrued.configured {share : Nat} (h : Accrued s asset share li vi s')
    (config : ReserveConfigurationMap) :
    Accrued s asset share li vi (LendPool.setReserveConfiguration s' asset config) := by
  refine ⟨?_, ?_, h.treasury, h.supply⟩
  · rw [configured_reserve]
    exact h.liquidityIndex
  · rw [configured_reserve]
    exact h.variableBorrowIndex

theorem Accrual.creditsCharged (ha : Accrual s asset li vi cTokens)
    (hupTo : CoveredUpTo s asset made slack) (htakes : TakesNoMore s asset made) :
    CreditsCharged s asset s.timestamp slack (s.accrued asset li vi cTokens) := by
  have hcredited := ha.credited hupTo htakes
  have hsupply : (s.cTokens asset).scaledTotalSupply ≤ (cTokens asset).scaledTotalSupply := by
    rw [ha.supply]
    exact Nat.le_add_right _ _
  have hmono := halfUp_mono
    (Nat.mul_le_mul hsupply (le_updatedLiquidityIndex ha.liquidityIndex)) RAY
  have hdebts := halfUp_mono (Nat.mul_le_mul_left (s.debtTokens asset).scaledTotalSupply
    (le_updatedBorrowIndex ha.variableBorrowIndex)) RAY
  have hnew := halfUp_le_add_half ((cTokens asset).scaledTotalSupply * li) RAY_pos
  have hold := sub_half_le_halfUp ((s.cTokens asset).scaledTotalSupply *
    (s.pool.reserves asset).liquidityIndex) RAY_pos
  have hcharged := sub_half_le_halfUp ((s.debtTokens asset).scaledTotalSupply * vi) RAY_pos
  have howed := halfUp_le_add_half ((s.debtTokens asset).scaledTotalSupply *
    (s.pool.reserves asset).variableBorrowIndex) RAY_pos
  have hindex : (s.accrued asset li vi cTokens).depositIndex asset = (li : ℚ) / RAY := by
    unfold State.depositIndex
    rw [accrued_liquidityIndex]
  unfold CreditsCharged creditedBetween State.interestUpTo interestCharged
  rw [hindex, accrued_liquidityIndex, accrued_variableBorrowIndex]
  change ((halfUp ((cTokens asset).scaledTotalSupply * li) RAY - _ : Nat) : ℚ) ≤
    _ + _ + s.accrualRounding asset * _ + 2
  unfold State.depositsWorth State.debtsWorth State.depositIndex State.debtIndex at hcredited
  unfold State.depositIndex
  push_cast [Nat.cast_sub hmono, Nat.cast_sub hdebts] at hnew hold hcharged howed ⊢
  rw [mul_div_assoc] at hnew hold hcharged howed
  linarith

theorem configured_creditsCharged {config : ReserveConfigurationMap} :
    CreditsCharged (LendPool.setReserveConfiguration (s.atTime now) asset config) asset now slack
      s' ↔ CreditsCharged s asset now slack s' := by
  unfold CreditsCharged creditedBetween State.interestUpTo State.accrualRounding
    State.rateRounding State.debtsWorth State.debtIndex State.depositIndex State.cashHeld
    State.atTime
  simp only [LendPool.setReserveConfiguration, LendPoolStorage.setReserve_reserves,
    Function.update_self]

private theorem changed_then_updated (hw : Wired s) (hchange : FactorChange change asset factor)
    (h : (change (s.atTime now) >>= fun m => updateState m asset) = .ok s') :
    ∃ li vi, updatedLiquidityIndex (s.pool.reserves asset) now = .ok li ∧
      updatedBorrowIndex (s.pool.reserves asset) (s.debtTokens asset).scaledTotalSupply now =
          .ok vi ∧
        Accrued s asset (treasuryShare factor (s.interestUpTo asset vi) li) li vi s' ∧
          ∀ made slack, CoveredUpTo s asset made slack →
            treasuryShare factor (s.interestUpTo asset vi) li ≤
                treasuryShare made (s.interestUpTo asset vi) li →
              CreditsCharged s asset now slack s' := by
  have hwired : Wired (s.atTime now) := ⟨hw.reserve, hw.nft, hw.proxy⟩
  obtain ⟨m, hm, hupdate⟩ := bind_eq_ok.mp h
  obtain ⟨config, hconfig, rfl⟩ := hchange.eq_ok.mp hm
  obtain ⟨li, vi, cTokens, haccrual, rfl⟩ :=
    (updateState_iff (wired_configured hwired config)).mp hupdate
  have hli := haccrual.liquidityIndex
  have hvi := haccrual.variableBorrowIndex
  have haccrued := haccrual.accrued
  have hinterest : (LendPool.setReserveConfiguration (s.atTime now) asset config).interestUpTo
      asset vi = s.interestUpTo asset vi := by
    unfold State.interestUpTo
    rw [configured_reserve]
    rfl
  have hfactor : (LendPool.setReserveConfiguration (s.atTime now) asset config).reserveFactor
      asset = factor := by
    unfold State.reserveFactor
    rw [configured_reserve]
    exact ReserveConfigurationMap.getReserveFactor_setReserveFactor hconfig
  change Accrued _ asset (treasuryShare (State.reserveFactor _ asset) _ li) li vi _ at haccrued
  rw [hinterest, hfactor] at haccrued
  rw [configured_reserve] at hli hvi
  refine ⟨li, vi, hli, hvi, ⟨haccrued.liquidityIndex, haccrued.variableBorrowIndex,
    haccrued.treasury, haccrued.supply⟩, fun made slack hupTo hle => ?_⟩
  have hundisturbed : Undisturbed s
      (LendPool.setReserveConfiguration (s.atTime now) asset config) asset := by
    refine ⟨rfl, rfl, ?_, ?_, ?_, ?_, ?_, Nat.le_refl _⟩ <;>
      rw [configured_reserve] <;>
        rfl
  have htakes : TakesNoMore (LendPool.setReserveConfiguration (s.atTime now) asset config) asset
      made := by
    intro part hpart fair hfair
    rw [haccrual.treasuryPart, hfactor, hinterest] at hpart
    rw [haccrual.treasuryPart, hinterest] at hfair
    rw [← Except.ok.inj hpart, ← Except.ok.inj hfair]
    exact hle
  exact configured_creditsCharged.mp
    (haccrual.creditsCharged (hundisturbed.coveredUpTo hupTo) htakes)

private theorem updated_then_changed (hw : Wired s) (hchange : FactorChange change asset factor)
    (h : (updateState (s.atTime now) asset >>= change) = .ok s') :
    ∃ li vi, updatedLiquidityIndex (s.pool.reserves asset) now = .ok li ∧
      updatedBorrowIndex (s.pool.reserves asset) (s.debtTokens asset).scaledTotalSupply now =
          .ok vi ∧
        Accrued s asset (treasuryShare (s.reserveFactor asset) (s.interestUpTo asset vi) li) li vi
          s' := by
  have hwired : Wired (s.atTime now) := ⟨hw.reserve, hw.nft, hw.proxy⟩
  obtain ⟨m, hm, hlater⟩ := bind_eq_ok.mp h
  obtain ⟨li, vi, cTokens, haccrual, rfl⟩ := (updateState_iff hwired).mp hm
  obtain ⟨config, -, rfl⟩ := hchange.eq_ok.mp hlater
  have haccrued := haccrual.accrued.configured config
  exact ⟨li, vi, haccrual.liquidityIndex, haccrual.variableBorrowIndex, haccrued.liquidityIndex,
    haccrued.variableBorrowIndex, haccrued.treasury, haccrued.supply⟩

theorem CreditsCharged.of_neutral (h : CreditsCharged s asset now slack s₁)
    (hneutral : ChangeNeutral s asset made s₁ s₂) : CreditsCharged s asset now slack s₂ := by
  unfold CreditsCharged creditedBetween State.depositIndex at h ⊢
  rw [← hneutral.supply, ← hneutral.liquidityIndex, ← hneutral.variableBorrowIndex]
  exact h

/-- Deposits stay covered along a run whose updates take no more than their rates left over. -/
theorem covered_run (hs : Genesis s₀) (hrun : Run operations s₀ history s)
    (hfair : AllowedWith (rateFactorAfter asset) (FairStep asset) 0 history) :
    CoveredUpTo s asset (rateFactor asset history) (drift (stepRoundings asset) history) := by
  have hstep : ∀ made m (operation : Operation) m' slack, Reachable operations m →
      FairStep asset made ⟨m, operation, m'⟩ → CoveredUpTo m asset made slack →
        operation.run m = .ok m' →
          CoveredUpTo m' asset (rateFactorAfter asset made ⟨m, operation, m'⟩)
            (slack + stepRoundings asset ⟨m, operation, m'⟩) :=
    fun _ _ _ _ _ hm hfair hupTo h =>
      hupTo.step (regular_of_reachable hm) (unissued_of_reachable hm) hfair h
  have hupTo := Run.drifts (fun made m slack => CoveredUpTo m asset made slack) hstep hrun
    (.initial hs) hfair hs.coveredUpTo
  rw [zero_add] at hupTo
  exact hupTo

/-- The order of a change and an update of the reserve does not matter, and the update splits
the interest as the rates have, exactly if the configured and the new factor leave the treasury
the same share of it as the factor of the rates. The credits then stay within the interest,
provided that the earlier updates took no more than their rates had left over. -/
theorem factor_change_neutral_iff (hs : Genesis s₀) (hrun : Run operations s₀ history s)
    (hchange : FactorChange change asset factor)
    (hfirst : (change (s.atTime now) >>= fun m => updateState m asset) = .ok s₁)
    (hlast : (updateState (s.atTime now) asset >>= change) = .ok s₂) :
    RateMadeWith s asset (rateFactor asset history) ∧
      (ChangeNeutral s asset (rateFactor asset history) s₁ s₂ ↔
        SameShare s asset now (rateFactor asset history) factor) ∧
      (AllowedWith (rateFactorAfter asset) (FairStep asset) 0 history →
        (ChangeNeutral s asset (rateFactor asset history) s₁ s₂ ∧
            CreditsCharged s asset now (drift (stepRoundings asset) history) s₁ ∧
              CreditsCharged s asset now (drift (stepRoundings asset) history) s₂ ↔
          SameShare s asset now (rateFactor asset history) factor)) := by
  have hw := (regular_of_reachable (hrun.reachable (.initial hs))).sound.wired
  obtain ⟨li, vi, hli, hvi, h₁, hcredits⟩ := changed_then_updated hw hchange hfirst
  obtain ⟨li', vi', hli', hvi', h₂⟩ := updated_then_changed hw hchange hlast
  obtain rfl : li' = li := Except.ok.inj (hli'.symm.trans hli)
  obtain rfl : vi' = vi := Except.ok.inj (hvi'.symm.trans hvi)
  have htreasury₁ := h₁.treasury
  have htreasury₂ := h₂.treasury
  have hsupply₁ := h₁.supply
  have hsupply₂ := h₂.supply
  have hneutral : ChangeNeutral s asset (rateFactor asset history) s₁ s₂ ↔
      SameShare s asset now (rateFactor asset history) factor := by
    constructor
    · intro hneutral li vi hli'' hvi''
      obtain rfl : li = li' := Except.ok.inj (hli''.symm.trans hli)
      obtain rfl : vi = vi' := Except.ok.inj (hvi''.symm.trans hvi)
      have hsupply := hneutral.supply
      have hsplit := hneutral.split
      rw [h₁.liquidityIndex, h₁.variableBorrowIndex] at hsplit
      omega
    · intro hsame
      obtain ⟨hconfigured, hnew⟩ := hsame li' vi' hli hvi
      refine ⟨?_, ?_, ?_, ?_, ?_⟩
      · rw [h₁.liquidityIndex, h₂.liquidityIndex]
      · rw [h₁.variableBorrowIndex, h₂.variableBorrowIndex]
      · omega
      · omega
      · rw [h₁.liquidityIndex, h₁.variableBorrowIndex]
        omega
  refine ⟨rateFactor_made hs hrun, hneutral, fun hfair => ?_⟩
  constructor
  · exact fun h => hneutral.mp h.1
  · intro hsame
    have hboth := hneutral.mpr hsame
    have hcharged := hcredits _ _ (covered_run hs hrun hfair) (hsame li' vi' hli hvi).2.le
    exact ⟨hboth, hcharged, hcharged.of_neutral hboth⟩

theorem sameShare_of_updated (hnow : now = (s.pool.reserves asset).lastUpdateTimestamp) :
    SameShare s asset now made factor := by
  intro li vi _ hvi
  have hindex : vi = (s.pool.reserves asset).variableBorrowIndex := by
    unfold updatedBorrowIndex at hvi
    split at hvi
    · obtain ⟨_, hinterest, hmul, -⟩ := accumulate_eq_ok.mp hvi
      rw [← hnow, calculateCompoundedInterest_self] at hinterest
      obtain rfl := Except.ok.inj hinterest
      exact rayMul_RAY hmul
    · exact (pure_eq_ok.mp hvi).symm
  have hinterest : s.interestUpTo asset vi = 0 := by
    unfold State.interestUpTo interestCharged
    rw [hindex, Nat.sub_self]
  simp [hinterest, treasuryShare]

def sampleLentHistory : List (Transition State Operation) :=
  trace operations sampleWorld sampleLending

theorem sampleLentHistory_run : Run operations sampleWorld sampleLentHistory sampleLent :=
  trace_run sampleWorld sampleLending

/-- The factor is raised in the block of the loan, or set to what it is a day later, when
depositors and the treasury are credited something. -/
theorem factor_change_neutral_sample :
    let neutral := fun now factor s₁ s₂ =>
      (setReserveFactor (sampleLent.atTime now) [sampleMarket.asset] factor >>=
          fun m => updateState m sampleMarket.asset) = .ok s₁ ∧
        (updateState (sampleLent.atTime now) sampleMarket.asset >>=
            fun m => setReserveFactor m [sampleMarket.asset] factor) = .ok s₂ ∧
          ChangeNeutral sampleLent sampleMarket.asset
              (rateFactor sampleMarket.asset sampleLentHistory) s₁ s₂ ∧
            CreditsCharged sampleLent sampleMarket.asset now
              (drift (stepRoundings sampleMarket.asset) sampleLentHistory) s₁
    (∃ s₁ s₂, neutral 1000000 5000 s₁ s₂) ∧
      ∃ s₁ s₂, neutral 1086400 1000 s₁ s₂ ∧
        0 < creditedBetween sampleLent s₁ sampleMarket.asset := by
  intro neutral
  have hs : Genesis sampleWorld := State.fresh_genesis (by decide) _ _ _
  have hboth : ∀ now factor s₁ s₂,
      (setReserveFactor (sampleLent.atTime now) [sampleMarket.asset] factor >>=
          fun m => updateState m sampleMarket.asset) = .ok s₁ →
        (updateState (sampleLent.atTime now) sampleMarket.asset >>=
            fun m => setReserveFactor m [sampleMarket.asset] factor) = .ok s₂ →
          SameShare sampleLent sampleMarket.asset now
              (rateFactor sampleMarket.asset sampleLentHistory) factor →
            neutral now factor s₁ s₂ := by
    intro now factor s₁ s₂ h₁ h₂ hshare
    obtain ⟨-, -, hfair⟩ := factor_change_neutral_iff hs sampleLentHistory_run (.inl rfl) h₁ h₂
    obtain ⟨hneutral, hcredits, -⟩ := (hfair (by decide +kernel)).mpr hshare
    exact ⟨h₁, h₂, hneutral, hcredits⟩
  constructor
  · have hfirst : passes (setReserveFactor (sampleLent.atTime 1000000) [sampleMarket.asset] 5000 >>=
      fun m => updateState m sampleMarket.asset) (fun _ => true) = true := by decide +kernel
    have hlast : passes (updateState (sampleLent.atTime 1000000) sampleMarket.asset >>=
      fun m => setReserveFactor m [sampleMarket.asset] 5000) (fun _ => true) = true := by
        decide +kernel
    obtain ⟨s₁, h₁, -⟩ := exists_of_passes hfirst
    obtain ⟨s₂, h₂, -⟩ := exists_of_passes hlast
    exact ⟨s₁, s₂, hboth _ _ _ _ h₁ h₂ (sameShare_of_updated (by decide +kernel))⟩
  · have hfirst : passes (setReserveFactor (sampleLent.atTime 1086400) [sampleMarket.asset] 1000 >>=
      fun m => updateState m sampleMarket.asset)
        (fun s₁ => 0 < creditedBetween sampleLent s₁ sampleMarket.asset) = true := by
          decide +kernel
    have hlast : passes (updateState (sampleLent.atTime 1086400) sampleMarket.asset >>=
      fun m => setReserveFactor m [sampleMarket.asset] 1000) (fun _ => true) = true := by
        decide +kernel
    obtain ⟨s₁, h₁, hcredited⟩ := exists_of_passes hfirst
    obtain ⟨s₂, h₂, -⟩ := exists_of_passes hlast
    have hconfigured : sampleLent.reserveFactor sampleMarket.asset = 1000 := by decide +kernel
    have hmade : rateFactor sampleMarket.asset sampleLentHistory = 1000 := by decide +kernel
    refine ⟨s₁, s₂, hboth _ _ _ _ h₁ h₂ fun li vi _ _ => ?_, of_decide_eq_true hcredited⟩
    rw [hconfigured, hmade]
    exact ⟨rfl, rfl⟩

/-- Raised a day after the loan, the factor takes interest that depositors have been
credited with; together they are credited six times what was charged. -/
theorem factor_change_takes_past_interest :
    (¬∀ s₀ history s asset factor now change s₁ s₂, Genesis s₀ → Run operations s₀ history s →
      FactorChange change asset factor →
        (change (s.atTime now) >>= fun m => updateState m asset) = .ok s₁ →
          (updateState (s.atTime now) asset >>= change) = .ok s₂ →
            ChangeNeutral s asset (rateFactor asset history) s₁ s₂ ∧
              CreditsCharged s asset now (drift (stepRoundings asset) history) s₁) ∧
    ∃ s₁, (setReserveFactor (sampleLent.atTime 1086400) [sampleMarket.asset] 65535 >>=
        fun m => updateState m sampleMarket.asset) = .ok s₁ ∧
      6 * sampleLent.interestUpTo sampleMarket.asset
          (s₁.pool.reserves sampleMarket.asset).variableBorrowIndex <
        creditedBetween sampleLent s₁ sampleMarket.asset := by
  have hfirst : passes (setReserveFactor (sampleLent.atTime 1086400) [sampleMarket.asset] 65535 >>=
    fun m => updateState m sampleMarket.asset) (fun s₁ => (6 * sampleLent.interestUpTo
        sampleMarket.asset (s₁.pool.reserves sampleMarket.asset).variableBorrowIndex <
      creditedBetween sampleLent s₁ sampleMarket.asset) &&
        !((s₁.cTokens sampleMarket.asset).scaledTotalSupply ==
          (sampleLent.cTokens sampleMarket.asset).scaledTotalSupply + treasuryShare
            (rateFactor sampleMarket.asset sampleLentHistory)
              (sampleLent.interestUpTo sampleMarket.asset
                (s₁.pool.reserves sampleMarket.asset).variableBorrowIndex)
              (s₁.pool.reserves sampleMarket.asset).liquidityIndex)) = true := by decide +kernel
  have hlast : passes (updateState (sampleLent.atTime 1086400) sampleMarket.asset >>=
    fun m => setReserveFactor m [sampleMarket.asset] 65535) (fun _ => true) = true := by
      decide +kernel
  obtain ⟨s₁, hs₁, hcheck⟩ := exists_of_passes hfirst
  obtain ⟨s₂, hs₂, -⟩ := exists_of_passes hlast
  obtain ⟨hcredited, hsplit⟩ := (Bool.and_eq_true _ _).mp hcheck
  refine ⟨fun h => ?_, s₁, hs₁, of_decide_eq_true hcredited⟩
  obtain ⟨hneutral, -⟩ := h sampleWorld sampleLentHistory sampleLent sampleMarket.asset 65535
    1086400 _ s₁ s₂ (State.fresh_genesis (by decide) _ _ _) sampleLentHistory_run (.inl rfl) hs₁ hs₂
  rw [hneutral.split] at hsplit
  simp at hsplit

end Confetti
