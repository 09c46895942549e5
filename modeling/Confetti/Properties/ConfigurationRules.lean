import Confetti.Effects.Frames
import Confetti.Invariants.Batches
import Confetti.Protocol.Deployment

/-! The rules of the single-purpose setters, on every stored word of a collection. -/
namespace Confetti
open Outcome TransitionSystem

/-- What `configureNftAsCollateral` checks. -/
structure NftConfigurationMap.CollateralValid (config : NftConfigurationMap) : Prop where
  ltv_le : config.getLtv ≤ config.getLiquidationThreshold
  bonus_lt : config.getLiquidationThreshold ≠ 0 → config.getLiquidationBonus < PERCENTAGE_FACTOR
  bonus_zero : config.getLiquidationThreshold = 0 → config.getLiquidationBonus = 0

/-- What `configureNftAsBuyItNow` checks. -/
def NftConfigurationMap.DurationsOrdered (config : NftConfigurationMap) : Prop :=
  config.getRedeemDuration ≤ config.getBuyItNowDuration

structure NftConfigurationMap.Valid (config : NftConfigurationMap) : Prop where
  collateral : config.CollateralValid
  durations : config.DurationsOrdered

def State.nftConfiguration (s : State) (nftAsset : Address) : NftConfigurationMap :=
  (s.pool.nfts nftAsset).configuration

def ConfigurationsValid (s : State) : Prop := ∀ nftAsset, (s.nftConfiguration nftAsset).Valid

/-- The entry that counts, the last one of each collection, has its durations in order. -/
def LastOrdered : List ConfigNftInput → Prop
  | [] => True
  | input :: rest => ((∀ later ∈ rest, later.asset ≠ input.asset) →
      input.redeemDuration ≤ input.buyItNowDuration) ∧ LastOrdered rest

instance decidableLastOrdered : (inputs : List ConfigNftInput) → Decidable (LastOrdered inputs)
  | [] => .isTrue trivial
  | input :: rest =>
    have := decidableLastOrdered rest
    inferInstanceAs (Decidable (((∀ later ∈ rest, later.asset ≠ input.asset) →
      input.redeemDuration ≤ input.buyItNowDuration) ∧ LastOrdered rest))

def Operation.batchInputs : Operation → List ConfigNftInput
  | .admin (.batchConfigNft inputs) => inputs
  | _ => []

def Transaction.batchInputs : Transaction → List ConfigNftInput
  | .single operation => operation.batchInputs
  | _ => []

variable {s s' : State} {operation : Operation} {asset nftAsset : Address}
  {config config' : NftConfigurationMap} {inputs : List ConfigNftInput}

/-! ### Words -/

theorem collateralValid_of_values (h : config.CollateralValid)
    (hltv : config'.value .ltv = config.value .ltv)
    (hthreshold : config'.value .liquidationThreshold = config.value .liquidationThreshold)
    (hbonus : config'.value .liquidationBonus = config.value .liquidationBonus) :
    config'.CollateralValid := by
  have hltv' : config'.getLtv = config.getLtv := hltv
  have hthreshold' : config'.getLiquidationThreshold = config.getLiquidationThreshold := hthreshold
  have hbonus' : config'.getLiquidationBonus = config.getLiquidationBonus := hbonus
  refine ⟨?_, ?_, ?_⟩
  · rw [hltv', hthreshold']
    exact h.ltv_le
  · rw [hthreshold', hbonus']
    exact h.bonus_lt
  · rw [hthreshold', hbonus']
    exact h.bonus_zero

theorem durationsOrdered_of_values (h : config.DurationsOrdered)
    (hredeem : config'.value .redeemDuration = config.value .redeemDuration)
    (hbuyItNow : config'.value .buyItNowDuration = config.value .buyItNowDuration) :
    config'.DurationsOrdered := by
  have hredeem' : config'.getRedeemDuration = config.getRedeemDuration := hredeem
  have hbuyItNow' : config'.getBuyItNowDuration = config.getBuyItNowDuration := hbuyItNow
  unfold NftConfigurationMap.DurationsOrdered
  rw [hredeem', hbuyItNow']
  exact h

def NftConfigurationMap.Field.isFree : NftConfigurationMap.Field → Bool
  | .active | .frozen | .redeemFine | .redeemThreshold | .minBuyItNowFine => true
  | _ => false

theorem NftConfigurationMap.Valid.of_free {field : NftConfigurationMap.Field} {v : Nat}
    (h : config.Valid) (hfree : field.isFree = true) (hwritten : Written config field v config') :
    config'.Valid := by
  have hsame : ∀ other : Field, other.isFree = false → config'.value other = config.value other := by
    intro other hother
    have hne : other ≠ field := by
      rintro rfl
      rw [hfree] at hother
      cases hother
    rw [hwritten.value, if_neg hne]
  constructor
  · exact collateralValid_of_values h.collateral (hsame .ltv rfl) (hsame .liquidationThreshold rfl)
      (hsame .liquidationBonus rfl)
  · exact durationsOrdered_of_values h.durations (hsame .redeemDuration rfl)
      (hsame .buyItNowDuration rfl)

theorem collateralValid_of_checks {ltv threshold bonus : Nat} (hle : ltv ≤ threshold)
    (hcheck : if threshold ≠ 0 then bonus < PERCENTAGE_FACTOR else bonus = 0)
    (hltv : config.value .ltv = ltv) (hthreshold : config.value .liquidationThreshold = threshold)
    (hbonus : config.value .liquidationBonus = bonus) : config.CollateralValid := by
  subst hltv hthreshold hbonus
  refine ⟨hle, ?_, ?_⟩
  · intro hne
    rw [if_pos (show config.value .liquidationThreshold ≠ 0 from hne)] at hcheck
    exact hcheck
  · intro hzero
    have hnot : ¬config.value .liquidationThreshold ≠ 0 := fun hne => hne hzero
    rw [if_neg hnot] at hcheck
    exact hcheck

theorem configureCollateral_valid {ltv threshold bonus : Nat} (hvalid : config.Valid)
    (h : LendPoolConfigurator.configureCollateral ltv threshold bonus config = .ok config') :
    config'.Valid := by
  obtain ⟨hle, hcheck, hvalue⟩ := LendPoolConfigurator.configureCollateral_spec h
  constructor
  · exact collateralValid_of_checks hle hcheck (hvalue .ltv) (hvalue .liquidationThreshold)
      (hvalue .liquidationBonus)
  · exact durationsOrdered_of_values hvalid.durations (hvalue .redeemDuration)
      (hvalue .buyItNowDuration)

theorem configureBuyItNow_valid {redeemDuration buyItNowDuration redeemFine : Nat}
    (hvalid : config.Valid) (hle : redeemDuration ≤ buyItNowDuration)
    (h : LendPoolConfigurator.configureBuyItNow redeemDuration buyItNowDuration redeemFine config =
      .ok config') : config'.Valid := by
  have hvalue := LendPoolConfigurator.configureBuyItNow_spec h
  constructor
  · exact collateralValid_of_values hvalid.collateral (hvalue .ltv) (hvalue .liquidationThreshold)
      (hvalue .liquidationBonus)
  · have hredeem : config'.getRedeemDuration = redeemDuration := hvalue .redeemDuration
    have hbuyItNow : config'.getBuyItNowDuration = buyItNowDuration := hvalue .buyItNowDuration
    unfold NftConfigurationMap.DurationsOrdered
    rw [hredeem, hbuyItNow]
    exact hle

theorem configureNft_rules {input : ConfigNftInput}
    (h : LendPoolConfigurator.configureNft input config = .ok config') :
    config'.CollateralValid ∧
      (config'.DurationsOrdered ↔ input.redeemDuration ≤ input.buyItNowDuration) := by
  obtain ⟨hle, hcheck, hvalue⟩ := LendPoolConfigurator.configureNft_spec h
  constructor
  · exact collateralValid_of_checks hle hcheck (hvalue .ltv) (hvalue .liquidationThreshold)
      (hvalue .liquidationBonus)
  · have hredeem : config'.getRedeemDuration = input.redeemDuration := hvalue .redeemDuration
    have hbuyItNow : config'.getBuyItNowDuration = input.buyItNowDuration :=
      hvalue .buyItNowDuration
    unfold NftConfigurationMap.DurationsOrdered
    rw [hredeem, hbuyItNow]

/-! ### Passes -/

@[simp] theorem nftConfiguration_setNftConfiguration (config : NftConfigurationMap) :
    (LendPool.setNftConfiguration s asset config).nftConfiguration nftAsset =
      if nftAsset = asset then config else s.nftConfiguration nftAsset := by
  unfold State.nftConfiguration LendPool.setNftConfiguration LendPoolStorage.setNft
  simp only [Function.update_apply]
  split <;> rfl

theorem ConfigurationsValid.congr (h : ConfigurationsValid s) (hnfts : s'.pool.nfts = s.pool.nfts) :
    ConfigurationsValid s' := by
  intro nftAsset
  unfold State.nftConfiguration
  rw [hnfts]
  exact h nftAsset

private theorem valid_setNftConfiguration (h : ConfigurationsValid s) (hconfig : config.Valid) :
    ConfigurationsValid (LendPool.setNftConfiguration s asset config) := by
  intro nftAsset
  rw [nftConfiguration_setNftConfiguration]
  split
  · exact hconfig
  · exact h nftAsset

theorem AdminStep.configurationsValid {call : AdminCall}
    (hcall : ∀ inputs, call ≠ .batchConfigNft inputs) (h : AdminStep call s s')
    (hvalid : ConfigurationsValid s) : ConfigurationsValid s' := by
  cases h with
  | listReserve _ _ h =>
    obtain ⟨-, pool, _, _, hnfts, -, rfl⟩ := executeInitReserve_spec h
    exact hvalid.congr hnfts
  | @listNft _ own _ _ _ h =>
    obtain ⟨-, pool, _, _, -, hnfts, -, rfl⟩ := executeInitNft_spec h
    intro nftAsset
    unfold State.nftConfiguration
    simp only [hnfts, Function.update_apply]
    split
    · apply NftConfigurationMap.Valid.of_free _ rfl (NftConfigurationMap.written_setFrozen false)
      exact (hvalid own).of_free rfl (NftConfigurationMap.written_setActive true)
    · exact hvalid nftAsset
  | @nftActive _ own flag _ _ _ =>
    apply valid_setNftConfiguration hvalid
    exact (hvalid own).of_free rfl (NftConfigurationMap.written_setActive flag)
  | @nftFrozen own flag =>
    apply valid_setNftConfiguration hvalid
    exact (hvalid own).of_free rfl (NftConfigurationMap.written_setFrozen flag)
  | nftCollateral h =>
    exact valid_setNftConfiguration hvalid (configureCollateral_valid (hvalid _) h)
  | nftBuyItNow hle h =>
    exact valid_setNftConfiguration hvalid (configureBuyItNow_valid (hvalid _) hle h)
  | @nftRedeemThreshold own _ _ h =>
    apply valid_setNftConfiguration hvalid
    exact (hvalid own).of_free rfl (NftConfigurationMap.written_setRedeemThreshold h)
  | @nftMinFine own _ _ h =>
    apply valid_setNftConfiguration hvalid
    exact (hvalid own).of_free rfl (NftConfigurationMap.written_setMinBuyItNowFine h)
  | nftBatch hbatch => exact absurd hbatch (hcall _)
  | _ => exact hvalid.congr rfl

/-! ### The batch -/

theorem batchConfigNft_kept (hother : ∀ input ∈ inputs, input.asset ≠ nftAsset)
    (h : LendPoolConfigurator.batchConfigNft s inputs = .ok s') :
    s'.nftConfiguration nftAsset = s.nftConfiguration nftAsset := by
  apply @foldlM_preserves _ _ _ _ (fun m => m.nftConfiguration nftAsset =
    s.nftConfiguration nftAsset) inputs _ s s' rfl h
  intro m input m' hmem hm hbody
  obtain ⟨_, -, rfl⟩ := bind_pure_eq_ok.mp hbody
  rw [nftConfiguration_setNftConfiguration, if_neg (Ne.symm (hother input hmem))]
  exact hm

theorem batchConfigNft_valid (hordered : LastOrdered inputs)
    (hcollateral : ∀ nftAsset, (s.nftConfiguration nftAsset).CollateralValid)
    (hdurations : ∀ nftAsset, (∀ input ∈ inputs, input.asset ≠ nftAsset) →
      (s.nftConfiguration nftAsset).DurationsOrdered)
    (h : LendPoolConfigurator.batchConfigNft s inputs = .ok s') : ConfigurationsValid s' := by
  induction inputs generalizing s with
  | nil =>
    obtain rfl := pure_eq_ok.mp h
    exact fun nftAsset => ⟨hcollateral nftAsset, hdurations nftAsset fun _ hmem => by cases hmem⟩
  | cons input rest ih =>
    unfold LendPoolConfigurator.batchConfigNft at h
    rw [List.foldlM_cons] at h
    obtain ⟨m, hfirst, hrest⟩ := bind_eq_ok.mp h
    obtain ⟨config, hconfig, rfl⟩ := bind_pure_eq_ok.mp hfirst
    obtain ⟨hrules, hiff⟩ := configureNft_rules hconfig
    apply ih hordered.2 _ _ hrest
    · intro nftAsset
      rw [nftConfiguration_setNftConfiguration]
      split
      · exact hrules
      · exact hcollateral nftAsset
    · intro nftAsset hlater
      rw [nftConfiguration_setNftConfiguration]
      split
      · rename_i heq
        rw [heq] at hlater
        exact hiff.mpr (hordered.1 hlater)
      · rename_i hne
        apply hdurations nftAsset
        intro other hmem
        rcases List.mem_cons.mp hmem with rfl | hmem
        · exact Ne.symm hne
        · exact hlater other hmem

theorem lastOrdered_of_valid (hvalid : ConfigurationsValid s')
    (h : LendPoolConfigurator.batchConfigNft s inputs = .ok s') : LastOrdered inputs := by
  induction inputs generalizing s with
  | nil => exact trivial
  | cons input rest ih =>
    unfold LendPoolConfigurator.batchConfigNft at h
    rw [List.foldlM_cons] at h
    obtain ⟨m, hfirst, hrest⟩ := bind_eq_ok.mp h
    refine ⟨?_, ih hrest⟩
    intro hlater
    obtain ⟨config, hconfig, rfl⟩ := bind_pure_eq_ok.mp hfirst
    have hstays := batchConfigNft_kept hlater hrest
    rw [nftConfiguration_setNftConfiguration, if_pos rfl] at hstays
    have hordered := (hvalid input.asset).durations
    rw [hstays] at hordered
    exact (configureNft_rules hconfig).2.mp hordered

/-! ### Along runs -/

theorem Operation.configurationsValid (hs : Reachable operations s)
    (hordered : LastOrdered operation.batchInputs) (hvalid : ConfigurationsValid s)
    (h : operation.run s = .ok s') : ConfigurationsValid s' := by
  have hreg := regular_of_reachable hs
  cases operation with
  | user call =>
    rcases UserCall.cases hreg.sound.wired hreg.book.toFiled h with haction | ⟨haside, -⟩
    · obtain ⟨_, _, _, _, _, hsettled⟩ := haction.settled
      exact hvalid.congr hsettled.step.nfts
    · obtain ⟨_, _, _, rfl⟩ := UserCall.frame haside h
      exact hvalid.congr rfl
  | token call =>
    obtain ⟨_, _, _, _, rfl⟩ := TokenCall.frame h
    exact hvalid.congr rfl
  | admin call =>
    by_cases hbatch : ∃ inputs, call = .batchConfigNft inputs
    · obtain ⟨inputs, rfl⟩ := hbatch
      apply batchConfigNft_valid hordered _ _ h
      · exact fun nftAsset => (hvalid nftAsset).collateral
      · exact fun nftAsset _ => (hvalid nftAsset).durations
    · have hcall : ∀ inputs, call ≠ .batchConfigNft inputs := fun inputs heq =>
        hbatch ⟨inputs, heq⟩
      exact AdminCall.preserves ConfigurationsValid
        (fun m m' hstep hm => hstep.configurationsValid hcall hm) h hvalid
  | world event =>
    obtain ⟨_, _, _, _, _, -, rfl⟩ := WorldEvent.frame h
    exact hvalid.congr rfl

theorem Transaction.lastOrdered_of_valid {transaction : Transaction}
    (h : transaction.run s = .ok s') (hvalid : ConfigurationsValid s') :
    LastOrdered transaction.batchInputs := by
  cases transaction with
  | batchBorrow | batchRepay => exact trivial
  | single operation =>
    cases operation with
    | user | token | world => exact trivial
    | admin call =>
      cases call with
      | batchConfigNft inputs => exact Confetti.lastOrdered_of_valid hvalid h
      | _ => exact trivial

theorem Genesis.configurationsValid (h : Genesis s) : ConfigurationsValid s := by
  intro nftAsset
  unfold State.nftConfiguration
  rw [h.pool]
  have hempty : NftConfigurationMap.CollateralValid ⟨0⟩ :=
    ⟨by decide, by decide, by decide⟩
  have hdurations : NftConfigurationMap.DurationsOrdered ⟨0⟩ := by
    unfold NftConfigurationMap.DurationsOrdered
    decide
  exact ⟨hempty, hdurations⟩

/-- Every stored word obeys every rule exactly when no batch leaves a collection with a
redeem duration above its buy-it-now duration. -/
theorem configurations_valid_iff {s₀ : State} {history : List (Transition State Transaction)}
    (hs₀ : Genesis s₀) (hrun : Run transactions s₀ history s) :
    (ConfigurationsValid s₀ ∧ ∀ t ∈ history, ConfigurationsValid t.post) ↔
      ∀ t ∈ history, LastOrdered t.label.batchInputs := by
  have hs₀' : Reachable transactions s₀ := .initial hs₀
  constructor
  · rintro ⟨-, hvalid⟩ t ht
    exact Transaction.lastOrdered_of_valid (hrun.transition_reachable hs₀' t ht).2 (hvalid t ht)
  · intro hordered
    have hstep : ∀ m (operation : Operation) m', Reachable operations m →
        LastOrdered operation.batchInputs → ConfigurationsValid m → operation.run m = .ok m' →
          ConfigurationsValid m' :=
      fun _ _ _ hm hordered hvalid h => Operation.configurationsValid hm hordered hvalid h
    refine ⟨hs₀.configurationsValid, (Run.preserves_operations hstep (fun _ _ _ => trivial)
      (fun _ _ _ => trivial) hs₀' hrun ?_ hs₀.configurationsValid).2⟩
    intro t ht operation hlabel
    have hnow := hordered t ht
    rw [hlabel] at hnow
    exact hnow

/-- An entry of a batch for the sample collection, with its two durations. -/
def sampleEntry (redeemDuration buyItNowDuration : Nat) : ConfigNftInput where
  asset := sampleMarket.nftAsset
  baseLTV := 4000
  liquidationThreshold := 6000
  liquidationBonus := 500
  redeemDuration
  buyItNowDuration
  redeemFine := 500
  redeemThreshold := 5000
  minBuyItNowFine := 0

def sampleConfigured (inputs : List ConfigNftInput) : List Transaction :=
  (sampleMarket.opening ++ [Operation.admin (.batchConfigNft inputs)]).map .single

/-- The second entry overrules the first. -/
theorem configurations_valid_iff_overruled :
    let history := trace transactions sampleWorld (sampleConfigured [sampleEntry 5 2, sampleEntry 2 5])
    history.length = 10 ∧ ConfigurationsValid sampleWorld ∧
      ∀ t ∈ history, ConfigurationsValid t.post := by
  intro history
  refine ⟨by decide +kernel, ?_⟩
  refine (configurations_valid_iff (State.fresh_genesis (by decide) _ _ _) (trace_run _ _)).mpr ?_
  decide +kernel

/-- A batch stores durations that `configureNftAsBuyItNow` refuses. -/
theorem durations_reversed :
    let s := replayed transactions sampleWorld (sampleConfigured [sampleEntry 5 2])
    Reachable transactions s ∧ ¬ConfigurationsValid s ∧
      fault ((AdminCall.configureNftAsBuyItNow [sampleMarket.nftAsset] 5 2 500).run s) =
        some (.error .LPC_INVALID_CONFIGURATION) := by
  intro s
  refine ⟨?_, ?_, by decide +kernel⟩
  · apply replayed_reachable
    exact .initial (State.fresh_genesis (by decide) _ _ _)
  · intro h
    have hordered := (h sampleMarket.nftAsset).durations
    have hreversed : (s.nftConfiguration sampleMarket.nftAsset).getBuyItNowDuration <
        (s.nftConfiguration sampleMarket.nftAsset).getRedeemDuration := by
      decide +kernel
    exact absurd hordered (Nat.not_le_of_lt hreversed)

end Confetti
