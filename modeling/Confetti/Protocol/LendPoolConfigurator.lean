import Confetti.Protocol.LendPool

/-! `LendPoolConfigurator` and the registry of cNFT proxies. Each call works through
its list of assets and stops at the first that reverts. The caller is the pool or
emergency admin the function asks for. -/
namespace Confetti
open Outcome

/-- `ICNFTRegistry.createCNFT`, open to anybody. The storage behind a proxy that did
not exist is empty. -/
def CNFTRegistry.createCNFT (s : State) (nftAsset : Address) : Except Revert State := do
  require (nftAsset ≠ .zero) (.message "CNFTR: asset is zero address")
  require (s.isContract nftAsset = true) (.message "CNFTR: asset is not contract")
  require (s.cNFTProxys nftAsset = .zero) (.message "CNFTR: asset exist")
  pure { s with cNFTProxys := Function.update s.cNFTProxys nftAsset (.cNFT nftAsset) }

theorem CNFTRegistry.createCNFT_spec {s s' : State} {nftAsset : Address}
    (h : CNFTRegistry.createCNFT s nftAsset = .ok s') :
    s' = { s with cNFTProxys := Function.update s.cNFTProxys nftAsset (.cNFT nftAsset) } := by
  simp only [CNFTRegistry.createCNFT, bind_eq_ok, pure_eq_ok] at h
  obtain ⟨_, -, _, -, _, -, rfl⟩ := h
  rfl

structure InitReserveInput where
  underlyingAssetDecimals : Nat
  interestRateAddress : Address
  underlyingAsset : Address
  treasury : Address
  deriving DecidableEq, Repr

structure ConfigReserveInput where
  asset : Address
  reserveFactor : Nat
  deriving DecidableEq, Repr

structure ConfigNftInput where
  asset : Address
  baseLTV : Nat
  liquidationThreshold : Nat
  liquidationBonus : Nat
  redeemDuration : Nat
  buyItNowDuration : Nat
  redeemFine : Nat
  redeemThreshold : Nat
  minBuyItNowFine : Nat
  deriving DecidableEq, Repr

namespace ConfiguratorLogic

/-- Token proxies are deployed for the asset before the pool accepts it; their
ledgers start empty and the cToken learns its treasury. -/
def executeInitReserve (s : State) (input : InitReserveInput) : Except Revert State := do
  let asset := input.underlyingAsset
  let cToken := { s.cTokens asset with treasury := input.treasury }
  let s := { s with cTokens := Function.update s.cTokens asset cToken }
  let s ← LendPool.initReserve s asset (.cToken asset) (.debtToken asset)
    input.interestRateAddress
  let currentConfig := (s.pool.reserves asset).configuration
  let currentConfig ← currentConfig.setDecimals input.underlyingAssetDecimals
  let currentConfig := (currentConfig.setActive true).setFrozen false
  pure (LendPool.setReserveConfiguration s asset currentConfig)

def executeInitNft (s : State) (underlyingAsset : Address) : Except Revert State := do
  let cNFTProxy := s.cNFTProxys underlyingAsset
  require (cNFTProxy ≠ .zero) (.error .LPC_INVALIED_CNFT_ADDRESS)
  let s ← LendPool.initNft s underlyingAsset cNFTProxy
  let currentConfig := (s.pool.nfts underlyingAsset).configuration
  let currentConfig := (currentConfig.setActive true).setFrozen false
  pure (LendPool.setNftConfiguration s underlyingAsset currentConfig)

end ConfiguratorLogic

namespace LendPoolConfigurator

def batchInitReserve (s : State) (input : List InitReserveInput) : Except Revert State :=
  input.foldlM ConfiguratorLogic.executeInitReserve s

def batchInitNft (s : State) (input : List Address) : Except Revert State :=
  input.foldlM ConfiguratorLogic.executeInitNft s

def modifyReserve (change : ReserveConfigurationMap → Except Revert ReserveConfigurationMap)
    (s : State) (asset : Address) : Except Revert State := do
  let currentConfig ← change (s.pool.reserves asset).configuration
  pure (LendPool.setReserveConfiguration s asset currentConfig)

def modifyNft (change : NftConfigurationMap → Except Revert NftConfigurationMap)
    (s : State) (asset : Address) : Except Revert State := do
  let currentConfig ← change (s.pool.nfts asset).configuration
  pure (LendPool.setNftConfiguration s asset currentConfig)

def setBorrowingFlagOnReserve (s : State) (assets : List Address) (flag : Bool) :
    Except Revert State :=
  assets.foldlM (modifyReserve fun config => pure (config.setBorrowingEnabled flag)) s

/-- `_checkReserveNoLiquidity` -/
def checkReserveNoLiquidity (s : State) (asset : Address) : Except Revert Unit := do
  let reserveData := s.pool.reserves asset
  let availableLiquidity := (s.erc20 asset).balances reserveData.cTokenAddress
  require (availableLiquidity = 0 ∧ reserveData.currentLiquidityRate = 0)
    (.error .LPC_RESERVE_LIQUIDITY_NOT_0)

/-- `_checkNftNoLiquidity` -/
def checkNftNoLiquidity (s : State) (asset : Address) : Except Revert Unit :=
  require (s.loanStore.nftTotalCollateral asset = 0) (.error .LPC_NFT_LIQUIDITY_NOT_0)

def setActiveFlagOnReserve (s : State) (assets : List Address) (flag : Bool) :
    Except Revert State :=
  assets.foldlM (fun s asset => do
    (if flag = false then checkReserveNoLiquidity s asset else pure ())
    modifyReserve (fun config => pure (config.setActive flag)) s asset) s

def setFreezeFlagOnReserve (s : State) (assets : List Address) (flag : Bool) :
    Except Revert State :=
  assets.foldlM (modifyReserve fun config => pure (config.setFrozen flag)) s

def setReserveFactor (s : State) (assets : List Address) (reserveFactor : Nat) :
    Except Revert State :=
  assets.foldlM (modifyReserve fun config => config.setReserveFactor reserveFactor) s

def setReserveInterestRateAddress (s : State) (assets : List Address) (rateAddress : Address) :
    State :=
  assets.foldl (fun s asset => LendPool.setReserveInterestRateAddress s asset rateAddress) s

def batchConfigReserve (s : State) (inputs : List ConfigReserveInput) : Except Revert State :=
  inputs.foldlM (fun s input =>
    modifyReserve (fun config => config.setReserveFactor input.reserveFactor) s input.asset) s

def setActiveFlagOnNft (s : State) (assets : List Address) (flag : Bool) : Except Revert State :=
  assets.foldlM (fun s asset => do
    (if flag = false then checkNftNoLiquidity s asset else pure ())
    modifyNft (fun config => pure (config.setActive flag)) s asset) s

def setFreezeFlagOnNft (s : State) (assets : List Address) (flag : Bool) : Except Revert State :=
  assets.foldlM (modifyNft fun config => pure (config.setFrozen flag)) s

/-- The checked collateral parameters of a collection. The loan to value may not
exceed the threshold, otherwise a loan against the asset would cause instantaneous
liquidation. -/
def configureCollateral (ltv liquidationThreshold liquidationBonus : Nat)
    (config : NftConfigurationMap) : Except Revert NftConfigurationMap := do
  require (ltv ≤ liquidationThreshold) (.error .LPC_INVALID_CONFIGURATION)
  require (if liquidationThreshold ≠ 0 then liquidationBonus < PERCENTAGE_FACTOR
    else liquidationBonus = 0) (.error .LPC_INVALID_CONFIGURATION)
  let config ← config.setLtv ltv
  let config ← config.setLiquidationThreshold liquidationThreshold
  config.setLiquidationBonus liquidationBonus

def configureNftAsCollateral (s : State) (assets : List Address)
    (ltv liquidationThreshold liquidationBonus : Nat) : Except Revert State :=
  assets.foldlM (modifyNft (configureCollateral ltv liquidationThreshold liquidationBonus)) s

def configureBuyItNow (redeemDuration buyItNowDuration redeemFine : Nat)
    (config : NftConfigurationMap) : Except Revert NftConfigurationMap := do
  let config ← config.setRedeemDuration redeemDuration
  let config ← config.setBuyItNowDuration buyItNowDuration
  config.setRedeemFine redeemFine

def configureNftAsBuyItNow (s : State) (assets : List Address)
    (redeemDuration buyItNowDuration redeemFine : Nat) : Except Revert State :=
  assets.foldlM (modifyNft fun config => do
    require (redeemDuration ≤ buyItNowDuration) (.error .LPC_INVALID_CONFIGURATION)
    configureBuyItNow redeemDuration buyItNowDuration redeemFine config) s

def setNftRedeemThreshold (s : State) (assets : List Address) (redeemThreshold : Nat) :
    Except Revert State :=
  assets.foldlM (modifyNft fun config => config.setRedeemThreshold redeemThreshold) s

def setNftMinBuyItNowFine (s : State) (assets : List Address) (minBuyItNowFine : Nat) :
    Except Revert State :=
  assets.foldlM (modifyNft fun config => config.setMinBuyItNowFine minBuyItNowFine) s

/-- The batch does not compare the two durations. -/
def configureNft (input : ConfigNftInput) (config : NftConfigurationMap) :
    Except Revert NftConfigurationMap := do
  let config ← configureCollateral input.baseLTV input.liquidationThreshold
    input.liquidationBonus config
  let config ← configureBuyItNow input.redeemDuration input.buyItNowDuration input.redeemFine
    config
  let config ← config.setRedeemThreshold input.redeemThreshold
  config.setMinBuyItNowFine input.minBuyItNowFine

def batchConfigNft (s : State) (inputs : List ConfigNftInput) : Except Revert State :=
  inputs.foldlM (fun s input => modifyNft (configureNft input) s input.asset) s

def setMaxNumberOfReserves (s : State) (newVal : Nat) : Except Revert State := do
  require (newVal > s.pool.maxNumberOfReserves) (.error .LPC_INVALID_CONFIGURATION)
  pure (LendPool.setMaxNumberOfReserves s newVal)

def setMaxNumberOfNfts (s : State) (newVal : Nat) : Except Revert State := do
  require (newVal > s.pool.maxNumberOfNfts) (.error .LPC_INVALID_CONFIGURATION)
  pure (LendPool.setMaxNumberOfNfts s newVal)

def setPoolPause (s : State) (val : Bool) : State := LendPool.setPause s val

/-! ### What the setters of a collection leave in its word -/

variable {config config' : NftConfigurationMap} {ltv liquidationThreshold liquidationBonus
  redeemDuration buyItNowDuration redeemFine : Nat}

theorem configureCollateral_spec
    (h : configureCollateral ltv liquidationThreshold liquidationBonus config = .ok config') :
    ltv ≤ liquidationThreshold ∧ (if liquidationThreshold ≠ 0 then
      liquidationBonus < PERCENTAGE_FACTOR else liquidationBonus = 0) ∧
      ∀ field, config'.value field = match field with
        | .ltv => ltv
        | .liquidationThreshold => liquidationThreshold
        | .liquidationBonus => liquidationBonus
        | other => config.value other := by
  simp only [configureCollateral, bind_eq_ok, require_eq_ok, exists_const] at h
  obtain ⟨hltv, hbonus, _, hfirst, _, hsecond, hthird⟩ := h
  refine ⟨hltv, hbonus, ?_⟩
  intro field
  rw [(NftConfigurationMap.written_setLiquidationBonus hthird).value,
    (NftConfigurationMap.written_setLiquidationThreshold hsecond).value,
    (NftConfigurationMap.written_setLtv hfirst).value]
  cases field <;> simp

theorem configureBuyItNow_spec
    (h : configureBuyItNow redeemDuration buyItNowDuration redeemFine config = .ok config') :
    ∀ field, config'.value field = match field with
      | .redeemDuration => redeemDuration
      | .buyItNowDuration => buyItNowDuration
      | .redeemFine => redeemFine
      | other => config.value other := by
  simp only [configureBuyItNow, bind_eq_ok] at h
  obtain ⟨_, hfirst, _, hsecond, hthird⟩ := h
  intro field
  rw [(NftConfigurationMap.written_setRedeemFine hthird).value,
    (NftConfigurationMap.written_setBuyItNowDuration hsecond).value,
    (NftConfigurationMap.written_setRedeemDuration hfirst).value]
  cases field <;> simp

theorem configureNft_spec {input : ConfigNftInput} (h : configureNft input config = .ok config') :
    input.baseLTV ≤ input.liquidationThreshold ∧ (if input.liquidationThreshold ≠ 0 then
      input.liquidationBonus < PERCENTAGE_FACTOR else input.liquidationBonus = 0) ∧
      ∀ field, config'.value field = match field with
        | .ltv => input.baseLTV
        | .liquidationThreshold => input.liquidationThreshold
        | .liquidationBonus => input.liquidationBonus
        | .redeemDuration => input.redeemDuration
        | .buyItNowDuration => input.buyItNowDuration
        | .redeemFine => input.redeemFine
        | .redeemThreshold => input.redeemThreshold
        | .minBuyItNowFine => input.minBuyItNowFine
        | other => config.value other := by
  simp only [configureNft, bind_eq_ok] at h
  obtain ⟨_, hcollateral, _, hbuyItNow, _, hthreshold, hfine⟩ := h
  obtain ⟨hltv, hbonus, hfirst⟩ := configureCollateral_spec hcollateral
  refine ⟨hltv, hbonus, ?_⟩
  intro field
  rw [(NftConfigurationMap.written_setMinBuyItNowFine hfine).value,
    (NftConfigurationMap.written_setRedeemThreshold hthreshold).value,
    configureBuyItNow_spec hbuyItNow]
  cases field <;> simp [hfirst]

end LendPoolConfigurator

end Confetti
