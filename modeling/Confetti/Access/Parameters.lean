import Confetti.Effects.Frames
import Confetti.Gateway.PoolCharges

/-! What the admins set and nobody else: the lists of assets, their configuration, strategies,
tokens and treasuries, the limits, and apart from those the pause. -/
namespace Confetti
open Outcome

/-- A reserve without the values that accrue. -/
def ReserveData.parameters (reserve : ReserveData) : ReserveData :=
  { reserve with
    liquidityIndex := 0
    variableBorrowIndex := 0
    currentLiquidityRate := 0
    currentVariableBorrowRate := 0
    lastUpdateTimestamp := 0 }

/-- The pool without these values and the pause, and the treasuries. -/
def State.parameters (s : State) : LendPoolStorage × (Address → Address) :=
  ({ s.pool with
      reserves := fun asset => (s.pool.reserves asset).parameters
      paused := false },
    fun asset => (s.cTokens asset).treasury)

variable {s s' : State}

theorem parameters_of_same (hpool : s'.pool = s.pool)
    (htreasuries : ∀ asset, (s'.cTokens asset).treasury = (s.cTokens asset).treasury) :
    s'.parameters = s.parameters := by
  unfold State.parameters
  rw [hpool, funext htreasuries]

theorem PoolStep.parameters {asset : Address} {li vi : Nat} (h : PoolStep s asset li vi s')
    (htreasuries : ∀ asset, (s'.cTokens asset).treasury = (s.cTokens asset).treasury) :
    s'.parameters = s.parameters := by
  have hreserves := h.view_eq ReserveData.parameters fun _ _ _ _ => rfl
  obtain ⟨_, _, hpool⟩ := h.pool
  unfold State.parameters
  rw [funext hreserves, funext htreasuries, hpool]
  rfl

theorem UserCall.treasuries_kept {call : UserCall} (haside : call.entersPool = false)
    (h : call.run s = .ok s') (asset : Address) :
    (s'.cTokens asset).treasury = (s.cTokens asset).treasury := by
  have hledger : ∀ own ledger, ((CToken.withLedger s own ledger).cTokens asset).treasury =
      (s.cTokens asset).treasury := by
    intro own ledger
    by_cases hown : asset = own
    · subst hown
      simp [CToken.withLedger]
    · simp [CToken.withLedger, hown]
  cases call with
  | deposit | withdraw | borrow | repay | buyItNow | redeem | liquidate => cases haside
  | transferCToken caller other recipient amount =>
    obtain ⟨own, -, h⟩ := bind_eq_ok.mp h
    obtain ⟨ledger, -, rfl⟩ := bind_pure_eq_ok.mp h
    exact hledger own ledger
  | transferCTokenFrom caller other sender recipient amount =>
    obtain ⟨own, ledger, -, -, -, -, rfl⟩ := CToken.transferFrom_eq_ok.mp h
    exact hledger own _
  | approveCToken caller other spender amount =>
    obtain ⟨own, -, h⟩ := bind_eq_ok.mp h
    obtain ⟨ledger, -, rfl⟩ := bind_pure_eq_ok.mp h
    exact hledger own ledger
  | approveDelegation caller other delegatee amount =>
    obtain ⟨_, -, rfl⟩ := bind_pure_eq_ok.mp h
    rfl
  | createCNFT nftAsset =>
    obtain rfl := CNFTRegistry.createCNFT_spec h
    rfl

theorem Operation.parameters_kept {operation : Operation} (hw : Wired s) (hf : Filed s)
    (haside : ∀ call, operation ≠ .admin call) (h : operation.run s = .ok s') :
    s'.parameters = s.parameters ∧ s'.pool.paused = s.pool.paused := by
  cases operation with
  | user call =>
    rcases UserCall.cases hw hf h with haction | ⟨hpool, -⟩
    · have hpool : call.entersPool = true := haction.entersPool
      obtain ⟨_, _, _, _, _, hsettled⟩ := haction.settled
      exact ⟨hsettled.step.parameters (UserCall.treasury_eq hw hf hpool h), hsettled.step.paused⟩
    · have htreasuries := UserCall.treasuries_kept hpool h
      obtain ⟨_, _, _, rfl⟩ := UserCall.frame hpool h
      exact ⟨parameters_of_same rfl htreasuries, rfl⟩
  | token call =>
    obtain ⟨_, _, _, _, rfl⟩ := TokenCall.frame h
    exact ⟨rfl, rfl⟩
  | admin call => exact absurd rfl (haside call)
  | world event =>
    obtain ⟨_, _, _, _, _, -, rfl⟩ := WorldEvent.frame h
    exact ⟨rfl, rfl⟩

/-! ### The pause -/

section Paused

theorem modifyReserve_paused
    {change : ReserveConfigurationMap → Except Revert ReserveConfigurationMap} {asset : Address}
    (h : LendPoolConfigurator.modifyReserve change s asset = .ok s') :
    s'.pool.paused = s.pool.paused := by
  obtain ⟨_, -, rfl⟩ := bind_pure_eq_ok.mp h
  rfl

theorem modifyNft_paused {change : NftConfigurationMap → Except Revert NftConfigurationMap}
    {asset : Address} (h : LendPoolConfigurator.modifyNft change s asset = .ok s') :
    s'.pool.paused = s.pool.paused := by
  obtain ⟨_, -, rfl⟩ := bind_pure_eq_ok.mp h
  rfl

theorem addReserveToList_paused {pool pool' : LendPoolStorage} {asset : Address}
    (h : LendPool.addReserveToList pool asset = .ok pool') : pool'.paused = pool.paused := by
  obtain ⟨_, -, h⟩ := bind_eq_ok.mp h
  dsimp only at h
  split at h
  · rw [← pure_eq_ok.mp h]
  · rw [← pure_eq_ok.mp h]
    rfl

theorem addNftToList_paused {pool pool' : LendPoolStorage} {asset : Address}
    (h : LendPool.addNftToList pool asset = .ok pool') : pool'.paused = pool.paused := by
  obtain ⟨_, -, h⟩ := bind_eq_ok.mp h
  dsimp only at h
  split at h
  · rw [← pure_eq_ok.mp h]
  · rw [← pure_eq_ok.mp h]
    rfl

theorem executeInitReserve_paused {input : InitReserveInput}
    (h : ConfiguratorLogic.executeInitReserve s input = .ok s') :
    s'.pool.paused = s.pool.paused := by
  simp only [ConfiguratorLogic.executeInitReserve, LendPool.initReserve, bind_eq_ok,
    pure_eq_ok] at h
  obtain ⟨_, ⟨_, -, _, -, pool, hpool, rfl⟩, _, -, rfl⟩ := h
  have hpaused := addReserveToList_paused hpool
  rw [LendPoolStorage.setReserve_paused] at hpaused
  exact hpaused

theorem executeInitNft_paused {asset : Address}
    (h : ConfiguratorLogic.executeInitNft s asset = .ok s') :
    s'.pool.paused = s.pool.paused := by
  simp only [ConfiguratorLogic.executeInitNft, LendPool.initNft, bind_eq_ok, pure_eq_ok] at h
  obtain ⟨_, -, _, ⟨_, -, _, -, pool, hpool, _, -, _, -, rfl⟩, rfl⟩ := h
  have hpaused := addNftToList_paused hpool
  exact hpaused

theorem foldlM_paused {α : Type} {body : State → α → Except Revert State} {xs : List α}
    (hbody : ∀ m x m', body m x = .ok m' → m'.pool.paused = m.pool.paused)
    (h : xs.foldlM body s = .ok s') : s'.pool.paused = s.pool.paused := by
  have hpass : ∀ m x m', x ∈ xs → m.pool.paused = s.pool.paused → body m x = .ok m' →
      m'.pool.paused = s.pool.paused := by
    intro m x m' _ hm hstep
    exact (hbody m x m' hstep).trans hm
  exact foldlM_preserves xs hpass s s' rfl h

theorem strategies_paused (assets : List Address) (rateAddress : Address) :
    (LendPoolConfigurator.setReserveInterestRateAddress s assets rateAddress).pool.paused =
      s.pool.paused := by
  induction assets generalizing s with
  | nil => rfl
  | cons asset assets ih => exact ih

theorem AdminCall.paused_kept {call : AdminCall} (hrole : ∀ val, call ≠ .setPoolPause val)
    (h : call.run s = .ok s') : s'.pool.paused = s.pool.paused := by
  cases call with
  | batchInitReserve inputs =>
    obtain ⟨_, -, h⟩ := bind_eq_ok.mp h
    exact foldlM_paused (fun _ _ _ hbody => executeInitReserve_paused hbody) h
  | batchInitNft input =>
    obtain ⟨_, -, h⟩ := bind_eq_ok.mp h
    exact foldlM_paused (fun _ _ _ hbody => executeInitNft_paused hbody) h
  | setBorrowingFlagOnReserve | setFreezeFlagOnReserve | setReserveFactor | batchConfigReserve =>
    exact foldlM_paused (fun _ _ _ hbody => modifyReserve_paused hbody) h
  | setActiveFlagOnReserve =>
    apply foldlM_paused _ h
    intro m asset m' hbody
    obtain ⟨_, -, hbody⟩ := bind_eq_ok.mp hbody
    exact modifyReserve_paused hbody
  | setActiveFlagOnNft =>
    apply foldlM_paused _ h
    intro m asset m' hbody
    obtain ⟨_, -, hbody⟩ := bind_eq_ok.mp hbody
    exact modifyNft_paused hbody
  | setReserveInterestRateAddress assets rateAddress =>
    obtain rfl := pure_eq_ok.mp h
    exact strategies_paused assets rateAddress
  | setFreezeFlagOnNft | configureNftAsCollateral | configureNftAsBuyItNow
    | setNftRedeemThreshold | setNftMinBuyItNowFine | batchConfigNft =>
    exact foldlM_paused (fun _ _ _ hbody => modifyNft_paused hbody) h
  | setMaxNumberOfReserves | setMaxNumberOfNfts =>
    obtain ⟨_, -, rfl⟩ := bind_pure_eq_ok.mp h
    rfl
  | setPoolPause val => exact absurd rfl (hrole val)

end Paused

end Confetti
