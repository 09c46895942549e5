import Confetti.Effects.Frames
import Confetti.Invariants.Batches
import Confetti.Invariants.Registry
import Confetti.Properties.DepositorBalances
import Confetti.Protocol.Deployment

/-! Whether switching off a reserve or a collection can leave a live loan behind. The guard of
the collections counts the loans, that of the reserves looks for cash and a liquidity rate. -/
namespace Confetti
open Outcome TransitionSystem

def ActivityFault (e : Revert) : Prop :=
  e = .error .VL_NO_ACTIVE_RESERVE ∨ e = .error .VL_NO_ACTIVE_NFT

def State.reserveActive (s : State) (asset : Address) : Bool :=
  (s.pool.reserves asset).configuration.getActive

def State.nftActive (s : State) (nftAsset : Address) : Bool :=
  (s.pool.nfts nftAsset).configuration.getActive

/-- Repaying, redeeming or liquidating is not refused for lack of an active reserve or
collection. An update in front of the check keeps the configuration. -/
structure Unblocked (s : State) (loan : LoanData) : Prop where
  repay : ∀ reserveData nftData amount borrowAmount,
    reserveData.configuration = (s.pool.reserves loan.reserveAsset).configuration →
      nftData.configuration = (s.pool.nfts loan.nftAsset).configuration →
        Avoids ActivityFault
          (ValidationLogic.validateRepay reserveData nftData loan amount borrowAmount)
  redeem : ∀ amount, Avoids ActivityFault (ValidationLogic.validateRedeem
    (s.pool.reserves loan.reserveAsset) (s.pool.nfts loan.nftAsset) loan amount)
  liquidate : Avoids ActivityFault (ValidationLogic.validateLiquidate
    (s.pool.reserves loan.reserveAsset) (s.pool.nfts loan.nftAsset) loan)

/-- Every live loan has an active reserve and an active collection. -/
structure NoneStranded (s : State) : Prop where
  active : ∀ loanId, (s.loanStore.loans loanId).state = .Active ∨
    (s.loanStore.loans loanId).state = .BuyItNow →
      s.reserveActive (s.loanStore.loans loanId).reserveAsset = true ∧
        s.nftActive (s.loanStore.loans loanId).nftAsset = true
  unblocked : ∀ loanId, (s.loanStore.loans loanId).state = .Active ∨
    (s.loanStore.loans loanId).state = .BuyItNow → Unblocked s (s.loanStore.loans loanId)

/-- The cToken holds no cash and depositors earn nothing, so that the guard sees no liquidity. -/
def State.LooksIdle (s : State) (asset : Address) : Prop :=
  (s.erc20 asset).balances (s.pool.reserves asset).cTokenAddress = 0 ∧
    (s.pool.reserves asset).currentLiquidityRate = 0

instance (s : State) (asset : Address) : Decidable (s.LooksIdle asset) :=
  inferInstanceAs (Decidable (_ ∧ _))

def GuardDeceived (s : State) (assets : List Address) : Prop :=
  ∃ loanId ∈ s.loanIds, (s.loanStore.loans loanId).state.isLive = true ∧
    (s.loanStore.loans loanId).reserveAsset ∈ assets ∧
      s.LooksIdle (s.loanStore.loans loanId).reserveAsset

instance (s : State) (assets : List Address) : Decidable (GuardDeceived s assets) :=
  inferInstanceAs (Decidable (∃ loanId ∈ s.loanIds, _))

def Operation.switchedOff : Operation → List Address
  | .admin (.setActiveFlagOnReserve assets false) => assets
  | _ => []

def Transaction.switchedOff : Transaction → List Address
  | .single operation => operation.switchedOff
  | _ => []

variable {s s' : State} {operation : Operation} {asset nftAsset other : Address} {loanId : Nat}

/-! ### The flags -/

theorem isLive_of_state {state : LoanState} (h : state = .Active ∨ state = .BuyItNow) :
    state.isLive = true := by
  rcases h with rfl | rfl <;> rfl

theorem state_of_isLive {state : LoanState} (h : state.isLive = true) :
    state = .Active ∨ state = .BuyItNow := by
  revert h
  cases state <;> decide

def AllActive (s : State) : Prop :=
  ∀ loanId, (s.loanStore.loans loanId).state.isLive = true →
    s.reserveActive (s.loanStore.loans loanId).reserveAsset = true ∧
      s.nftActive (s.loanStore.loans loanId).nftAsset = true

theorem avoids_validateActive_of_active {reserveData : ReserveData} {nftData : NftData}
    (hreserve : reserveData.configuration.getActive = true)
    (hnft : nftData.configuration.getActive = true) :
    Avoids ActivityFault (ValidationLogic.validateActive reserveData nftData) := by
  apply Avoids.bind
  · apply avoids_require
    rintro _ (h | h) <;> cases h
  · intro _ _
    apply Avoids.bind
    · apply avoids_require
      rintro _ (h | h) <;> cases h
    · intro _ _
      apply Avoids.bind
      · exact avoids_require fun hno => absurd hreserve hno
      · exact fun _ _ => avoids_require fun hno => absurd hnft hno

private theorem avoids_other_require {condition : Prop} [Decidable condition] {reason : Errors}
    (hreserve : reason ≠ .VL_NO_ACTIVE_RESERVE) (hnft : reason ≠ .VL_NO_ACTIVE_NFT) :
    Avoids ActivityFault (require condition (.error reason)) := by
  apply avoids_require
  rintro _ (h | h)
  · exact hreserve (Revert.error.inj h)
  · exact hnft (Revert.error.inj h)

theorem unblocked_of_active {loan : LoanData} (hreserve : s.reserveActive loan.reserveAsset = true)
    (hnft : s.nftActive loan.nftAsset = true) : Unblocked s loan := by
  have hliquidate : Avoids ActivityFault (ValidationLogic.validateLiquidate
      (s.pool.reserves loan.reserveAsset) (s.pool.nfts loan.nftAsset) loan) := by
    apply (avoids_validateActive_of_active hreserve hnft).bind
    intro _ _
    apply Avoids.bind
    · exact avoids_other_require (by decide) (by decide)
    · exact fun _ _ => avoids_other_require (by decide) (by decide)
  refine ⟨?_, ?_, hliquidate⟩
  · intro reserveData nftData amount borrowAmount hreserveData hnftData
    have hreserve' : reserveData.configuration.getActive = true := by
      rw [hreserveData]
      exact hreserve
    have hnft' : nftData.configuration.getActive = true := by
      rw [hnftData]
      exact hnft
    apply (avoids_validateActive_of_active hreserve' hnft').bind
    intro _ _
    apply Avoids.bind
    · exact avoids_other_require (by decide) (by decide)
    · intro _ _
      apply Avoids.bind
      · exact avoids_other_require (by decide) (by decide)
      · exact fun _ _ => avoids_other_require (by decide) (by decide)
  · intro amount
    exact hliquidate.bind fun _ _ => avoids_other_require (by decide) (by decide)

theorem noneStranded_iff : NoneStranded s ↔ AllActive s := by
  constructor
  · exact fun h loanId hlive => h.active loanId (state_of_isLive hlive)
  · intro h
    refine ⟨fun loanId hstate => h loanId (isLive_of_state hstate), fun loanId hstate => ?_⟩
    obtain ⟨hreserve, hnft⟩ := h loanId (isLive_of_state hstate)
    exact unblocked_of_active hreserve hnft

/-! ### What an admin's pass does to the flags -/

theorem reserveActive_setReserveConfiguration (config : ReserveConfigurationMap) :
    (LendPool.setReserveConfiguration s asset config).reserveActive other =
      if other = asset then config.getActive else s.reserveActive other := by
  unfold State.reserveActive LendPool.setReserveConfiguration
  rw [LendPoolStorage.setReserve_reserves, Function.update_apply]
  split <;> rfl

theorem nftActive_setNftConfiguration (config : NftConfigurationMap) :
    (LendPool.setNftConfiguration s asset config).nftActive other =
      if other = asset then config.getActive else s.nftActive other := by
  unfold State.nftActive LendPool.setNftConfiguration LendPoolStorage.setNft
  simp only [Function.update_apply]
  split <;> rfl

private theorem reserveActive_kept {config : ReserveConfigurationMap}
    (h : config.getActive = (s.pool.reserves asset).configuration.getActive) :
    (LendPool.setReserveConfiguration s asset config).reserveActive other =
      s.reserveActive other := by
  rw [reserveActive_setReserveConfiguration]
  split
  · rename_i heq
    rw [h, heq]
    rfl
  · rfl

private theorem nftActive_kept {config : NftConfigurationMap}
    (h : config.getActive = (s.pool.nfts asset).configuration.getActive) :
    (LendPool.setNftConfiguration s asset config).nftActive other = s.nftActive other := by
  rw [nftActive_setNftConfiguration]
  split
  · rename_i heq
    rw [h, heq]
    rfl
  · rfl

theorem checkReserveNoLiquidity_eq_ok :
    LendPoolConfigurator.checkReserveNoLiquidity s asset = .ok () ↔ s.LooksIdle asset :=
  require_eq_ok

/-- Only the switch of the reserves switches a reserve off, if its guard sees no liquidity. -/
theorem AdminStep.reserveActive_of {call : AdminCall} (h : AdminStep call s s')
    (hactive : s.reserveActive asset = true) (hoff : s'.reserveActive asset = false) :
    ∃ assets, call = .setActiveFlagOnReserve assets false ∧ asset ∈ assets ∧
      s.LooksIdle asset := by
  have hsame : s'.reserveActive asset ≠ s.reserveActive asset := by
    rw [hactive, hoff]
    decide
  cases h with
  | @listReserve _ input _ _ _ h =>
    obtain ⟨-, pool, config, id, -, hreserves, rfl⟩ := executeInitReserve_spec h
    unfold State.reserveActive at hsame hoff
    simp only [hreserves, Function.update_apply] at hsame hoff
    split at hoff
    · simp [ReserveData.initialized] at hoff
    · rename_i hother
      exact absurd (by rw [if_neg hother]) hsame
  | listNft _ _ h =>
    obtain ⟨-, pool, _, _, hreserves, -, -, rfl⟩ := executeInitNft_spec h
    apply absurd _ hsame
    simp only [State.reserveActive, hreserves]
  | @reserveActive assets own flag hcall hmem hcheck =>
    rw [reserveActive_setReserveConfiguration] at hoff
    split at hoff
    · rename_i heq
      rw [ReserveConfigurationMap.getActive_setActive] at hoff
      rw [hcall, hoff, heq]
      exact ⟨assets, rfl, hmem, checkReserveNoLiquidity_eq_ok.mp (hcheck hoff)⟩
    · rw [hactive] at hoff
      cases hoff
  | reserveBorrowing => exact absurd (reserveActive_kept (by simp)) hsame
  | reserveFrozen => exact absurd (reserveActive_kept (by simp)) hsame
  | reserveFactor h =>
    exact absurd (reserveActive_kept (ReserveConfigurationMap.getActive_setReserveFactor h)) hsame
  | @strategy own rateAddress =>
    apply absurd _ hsame
    unfold State.reserveActive LendPool.setReserveInterestRateAddress
    rw [LendPoolStorage.setReserve_reserves, Function.update_apply]
    split
    · rename_i heq
      rw [heq]
    · rfl
  | _ => exact absurd rfl hsame

theorem AdminStep.nftActive_of {call : AdminCall} (h : AdminStep call s s')
    (hactive : s.nftActive nftAsset = true) (hoff : s'.nftActive nftAsset = false) :
    s.loanStore.nftTotalCollateral nftAsset = 0 := by
  have hsame : s'.nftActive nftAsset ≠ s.nftActive nftAsset := by
    rw [hactive, hoff]
    decide
  cases h with
  | listReserve _ _ h =>
    obtain ⟨-, pool, config, id, hnfts, -, rfl⟩ := executeInitReserve_spec h
    apply absurd _ hsame
    simp only [State.nftActive, hnfts]
  | listNft _ _ h =>
    obtain ⟨-, pool, _, _, -, hnfts, -, rfl⟩ := executeInitNft_spec h
    unfold State.nftActive at hsame hoff
    simp only [hnfts, Function.update_apply] at hsame hoff
    split at hoff
    · simp at hoff
    · rename_i hother
      exact absurd (by rw [if_neg hother]) hsame
  | @nftActive assets own flag _ _ hcheck =>
    rw [nftActive_setNftConfiguration] at hoff
    split at hoff
    · rename_i heq
      rw [NftConfigurationMap.getActive_setActive] at hoff
      rw [heq]
      exact require_eq_ok.mp (hcheck hoff)
    · rw [hactive] at hoff
      cases hoff
  | nftFrozen => exact absurd (nftActive_kept (by simp)) hsame
  | nftCollateral h =>
    have hvalue := (LendPoolConfigurator.configureCollateral_spec h).2.2 .active
    exact absurd (nftActive_kept (NftConfigurationMap.getActive_congr hvalue)) hsame
  | nftBuyItNow _ h =>
    have hvalue := LendPoolConfigurator.configureBuyItNow_spec h .active
    exact absurd (nftActive_kept (NftConfigurationMap.getActive_congr hvalue)) hsame
  | nftRedeemThreshold h =>
    have hwritten := NftConfigurationMap.written_setRedeemThreshold h
    exact absurd (nftActive_kept (hwritten.getActive (by decide))) hsame
  | nftMinFine h =>
    have hwritten := NftConfigurationMap.written_setMinBuyItNowFine h
    exact absurd (nftActive_kept (hwritten.getActive (by decide))) hsame
  | nftBatch _ _ h =>
    have hvalue := (LendPoolConfigurator.configureNft_spec h).2.2 .active
    exact absurd (nftActive_kept (NftConfigurationMap.getActive_congr hvalue)) hsame
  | _ => exact absurd rfl hsame

/-! ### Along runs -/

theorem not_guardDeceived_nil : ¬GuardDeceived s [] := fun ⟨_, _, _, hmem, _⟩ => by cases hmem

theorem AllActive.congr (h : AllActive s) (hloans : s'.loanStore = s.loanStore)
    (hpool : s'.pool = s.pool) : AllActive s' := by
  unfold AllActive State.reserveActive State.nftActive
  rw [hloans, hpool]
  exact h

theorem AdminFrame.looksIdle (hframe : AdminFrame s s')
    (hsame : SameAccrual (s.pool.reserves asset) (s'.pool.reserves asset)) :
    s'.LooksIdle asset ↔ s.LooksIdle asset := by
  obtain ⟨_, _, _, hshape⟩ := hframe.shape
  have herc20 : s'.erc20 = s.erc20 := by rw [hshape]
  unfold State.LooksIdle
  rw [herc20, hsame.cTokenAddress, hsame.currentLiquidityRate]

theorem AdminCall.allActive {call : AdminCall} (hb : BookValid s) (hc : Counted s)
    (hlisted : LoansListed s) (hseen : ¬GuardDeceived s (Operation.admin call).switchedOff)
    (hall : AllActive s) (h : call.run s = .ok s') : AllActive s' := by
  have hpass : ∀ m m', AdminStep call m m' →
      AdminFrame s m ∧ (∀ asset, (s.pool.reserves asset).cTokenAddress ≠ .zero →
        SameAccrual (s.pool.reserves asset) (m.pool.reserves asset)) ∧ AllActive m →
      AdminFrame s m' ∧ (∀ asset, (s.pool.reserves asset).cTokenAddress ≠ .zero →
        SameAccrual (s.pool.reserves asset) (m'.pool.reserves asset)) ∧ AllActive m' := by
    rintro m m' hstep ⟨hframe, hsame, hm⟩
    have hloans : m.loanStore = s.loanStore := by
      obtain ⟨_, _, _, hshape⟩ := hframe.shape
      rw [hshape]
    have hloans' : m'.loanStore = s.loanStore := by
      obtain ⟨_, _, _, hshape⟩ := (hframe.trans hstep.frame).shape
      rw [hshape]
    refine ⟨hframe.trans hstep.frame, ?_, ?_⟩
    · intro asset hasset
      have hold := hsame asset hasset
      apply hold.trans (hstep.sameAccrual _)
      rw [hold.cTokenAddress]
      exact hasset
    intro loanId hlive
    rw [← hloans] at hloans'
    rw [hloans'] at hlive ⊢
    obtain ⟨hreserve, hnft⟩ := hm loanId hlive
    rw [hloans] at hlive hreserve hnft ⊢
    constructor
    · by_contra hoff
      obtain ⟨assets, rfl, hmem, hidle⟩ :=
        hstep.reserveActive_of hreserve (Bool.eq_false_of_not_eq_true hoff)
      exact hseen ⟨loanId, Finset.mem_range.mpr (hb.lt_tracker hlive), hlive, hmem,
        (hframe.looksIdle (hsame _ (hlisted loanId hlive))).mp hidle⟩
    · by_contra hoff
      have hzero := hstep.nftActive_of hnft (Bool.eq_false_of_not_eq_true hoff)
      have hpos := hc.total_pos hb hlive
      rw [hloans] at hzero
      omega
  exact (AdminCall.preserves _ hpass h ⟨.refl s, fun _ _ => .refl _, hall⟩).2.2

theorem PoolAction.allActive (hb : BookValid s) (hall : AllActive s)
    (h : PoolAction s operation s') : AllActive s' := by
  obtain ⟨_, _, _, _, _, hsettled⟩ := h.settled
  have hreserves : ∀ asset, s'.reserveActive asset = s.reserveActive asset := by
    intro asset
    unfold State.reserveActive
    rw [hsettled.step.configuration]
  have hnfts : ∀ nftAsset, s'.nftActive nftAsset = s.nftActive nftAsset := by
    intro nftAsset
    unfold State.nftActive
    rw [hsettled.step.nfts]
  intro loanId hlive
  rw [hreserves, hnfts]
  rcases h.live_origin hb hlive with ⟨hold, hsame⟩ | ⟨p, n, li, vi, scaled, -, hborrow, hloan⟩
  · rw [hsame.reserveAsset, hsame.nftAsset]
    exact hall loanId hold
  · rw [hloan]
    obtain ⟨cTokens, -, hvalid⟩ := hborrow.validated
    obtain ⟨hreserve, hnft⟩ := validateBorrow_active hvalid
    rw [accrued_configuration] at hreserve
    exact ⟨hreserve, hnft⟩

theorem Operation.allActive (hs : Reachable operations s)
    (hseen : ¬GuardDeceived s operation.switchedOff) (hall : AllActive s)
    (h : operation.run s = .ok s') : AllActive s' := by
  have hreg := regular_of_reachable hs
  cases operation with
  | user call =>
    rcases UserCall.cases hreg.sound.wired hreg.book.toFiled h with haction | ⟨haside, -⟩
    · exact haction.allActive hreg.book hall
    · obtain ⟨_, _, _, rfl⟩ := UserCall.frame haside h
      exact hall.congr rfl rfl
  | token call =>
    obtain ⟨_, _, _, _, rfl⟩ := TokenCall.frame h
    exact hall.congr rfl rfl
  | admin call =>
    exact AdminCall.allActive hreg.book (counted_of_reachable hs) hreg.listed hseen hall h
  | world event =>
    obtain ⟨_, _, _, _, _, -, rfl⟩ := WorldEvent.frame h
    exact hall.congr rfl rfl

private theorem reserveInactive_kept {assets : List Address}
    (hoff : s.reserveActive asset = false)
    (h : LendPoolConfigurator.setActiveFlagOnReserve s assets false = .ok s') :
    s'.reserveActive asset = false := by
  apply @foldlM_preserves _ _ _ _ (fun m => m.reserveActive asset = false) assets _ s s' hoff h
  intro m own m' _ hm hbody
  obtain ⟨_, -, hbody⟩ := bind_eq_ok.mp hbody
  obtain ⟨_, hconfig, rfl⟩ := bind_pure_eq_ok.mp hbody
  obtain rfl := pure_eq_ok.mp hconfig
  rw [reserveActive_setReserveConfiguration]
  split
  · exact ReserveConfigurationMap.getActive_setActive false
  · exact hm

theorem setActiveFlagOnReserve_off {assets : List Address}
    (h : LendPoolConfigurator.setActiveFlagOnReserve s assets false = .ok s')
    (hmem : asset ∈ assets) : s'.reserveActive asset = false := by
  induction assets generalizing s with
  | nil => cases hmem
  | cons own assets ih =>
    unfold LendPoolConfigurator.setActiveFlagOnReserve at h
    rw [List.foldlM_cons] at h
    obtain ⟨m, hfirst, hrest⟩ := bind_eq_ok.mp h
    rcases List.mem_cons.mp hmem with rfl | hmem
    · apply reserveInactive_kept _ hrest
      obtain ⟨_, -, hfirst⟩ := bind_eq_ok.mp hfirst
      obtain ⟨_, hconfig, rfl⟩ := bind_pure_eq_ok.mp hfirst
      obtain rfl := pure_eq_ok.mp hconfig
      rw [reserveActive_setReserveConfiguration, if_pos rfl]
      exact ReserveConfigurationMap.getActive_setActive false
    · exact ih hrest hmem

theorem not_guardDeceived_of_active {transaction : Transaction}
    (h : transaction.run s = .ok s') (hall : AllActive s') :
    ¬GuardDeceived s transaction.switchedOff := by
  cases transaction with
  | batchBorrow | batchRepay => exact not_guardDeceived_nil
  | single operation =>
    cases operation with
    | user | token | world => exact not_guardDeceived_nil
    | admin call =>
      obtain ⟨_, _, _, hshape⟩ := (AdminCall.frame h).shape
      cases call with
      | setActiveFlagOnReserve assets flag =>
        cases flag with
        | true => exact not_guardDeceived_nil
        | false =>
          rintro ⟨loanId, -, hlive, hmem, -⟩
          have hoff := setActiveFlagOnReserve_off h hmem
          rw [hshape] at hoff hall
          have hon := (hall loanId hlive).1
          rw [hoff] at hon
          cases hon
      | _ => exact not_guardDeceived_nil

theorem Genesis.allActive (h : Genesis s) : AllActive s := by
  intro loanId hlive
  rw [h.loanStore] at hlive
  cases hlive

/-- Live loans are stranded exactly when the guard was deceived: a reserve was switched off that
had a live loan, but no cash and no liquidity rate. -/
theorem deactivation_strands_iff {s₀ : State} {history : List (Transition State Transaction)}
    (hs₀ : Genesis s₀) (hrun : Run transactions s₀ history s) :
    (NoneStranded s₀ ∧ ∀ t ∈ history, NoneStranded t.post) ↔
      ∀ t ∈ history, ¬GuardDeceived t.pre t.label.switchedOff := by
  simp only [noneStranded_iff]
  have hs₀' : Reachable transactions s₀ := .initial hs₀
  constructor
  · rintro ⟨-, hall⟩ t ht
    have hstep := (hrun.transition_reachable hs₀' t ht).2
    exact not_guardDeceived_of_active hstep (hall t ht)
  · intro hseen
    have hstep : ∀ m (operation : Operation) m', Reachable operations m →
        ¬GuardDeceived m operation.switchedOff → AllActive m → operation.run m = .ok m' →
          AllActive m' := fun _ _ _ hm hseen hall h => Operation.allActive hm hseen hall h
    refine ⟨hs₀.allActive, (Run.preserves_operations hstep (fun _ _ _ => not_guardDeceived_nil)
      (fun _ _ _ => not_guardDeceived_nil) hs₀' hrun ?_ hs₀.allActive).2⟩
    intro t ht operation hlabel
    have hnow := hseen t ht
    rw [hlabel] at hnow
    exact hnow

/-- A loan that is repaid before its reserve is switched off. -/
theorem deactivation_strands_iff_repaid :
    let calls := sampleLending ++ [.user (.repay 2 sampleMarket.nftAsset 7 (50 * 10 ^ 18)),
      .user (.withdraw 1 sampleMarket.asset (1000 * 10 ^ 18) (.account 1)),
      .admin (.setActiveFlagOnReserve [sampleMarket.asset] false)]
    let history := trace transactions sampleWorld (calls.map .single)
    history.length = calls.length ∧ NoneStranded sampleWorld ∧ ∀ t ∈ history, NoneStranded t.post := by
  intro calls history
  refine ⟨by decide +kernel, ?_⟩
  refine (deactivation_strands_iff (State.fresh_genesis (by decide) _ _ _) (trace_run _ _)).mpr ?_
  decide +kernel

/-! ### A reserve that is switched off at full utilization -/

/-- Account 2 borrows all that account 1 has deposited; the treasury takes all interest. -/
def drainedMarket : List Operation :=
  let m : Market := { sampleMarket with reserveFactor := 10000 }
  m.opening ++ m.funding 1 (10 ^ 24) ++ m.funding 2 (10 ^ 24) ++ m.minting 2 7 ++
    [.user (.deposit 1 m.asset (40 * 10 ^ 18) (.account 1)),
      .user (.borrow 2 m.asset (40 * 10 ^ 18) m.nftAsset 7 (.account 2)),
      .admin (.setActiveFlagOnReserve [m.asset] false)]

def sampleStranded : State := replayed transactions sampleWorld (drainedMarket.map .single)

/-- Neither cash nor a liquidity rate shows the loan that is left without a reserve. -/
theorem loan_stranded : Reachable transactions sampleStranded ∧ ¬NoneStranded sampleStranded ∧
    fault (LendPool.repay sampleStranded (.account 2) sampleMarket.nftAsset 7 (40 * 10 ^ 18)) =
      some (.error .VL_NO_ACTIVE_RESERVE) := by
  refine ⟨?_, ?_, by decide +kernel⟩
  · apply replayed_reachable
    exact .initial (State.fresh_genesis (by decide) _ _ _)
  · intro h
    have hoff : (sampleStranded.loanStore.loans 1).state = .Active ∧
        sampleStranded.reserveActive (sampleStranded.loanStore.loans 1).reserveAsset = false := by
      decide +kernel
    have hon := (h.active 1 (.inl hoff.1)).1
    rw [hoff.2] at hon
    cases hon

end Confetti
