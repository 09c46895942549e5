import Confetti.Effects.Steps

/-! Which components of the storage the calls beside the pool's operations can write,
one lemma for each kind of caller. -/
namespace Confetti
open Outcome

variable {s s' : State}

theorem UserCall.frame {call : UserCall} (haside : call.entersPool = false)
    (h : call.run s = .ok s') :
    ∃ cTokens debtTokens cNFTProxys, s' = { s with cTokens, debtTokens, cNFTProxys } := by
  cases call with
  | deposit | withdraw | borrow | repay | buyItNow | redeem | liquidate => cases haside
  | transferCToken caller asset recipient amount =>
    obtain ⟨_, hs⟩ := CToken.transfer_frame h
    exact ⟨_, _, _, hs⟩
  | transferCTokenFrom caller asset sender recipient amount =>
    obtain ⟨_, hs⟩ := CToken.transferFrom_frame h
    exact ⟨_, _, _, hs⟩
  | approveCToken caller asset spender amount =>
    obtain ⟨_, hs⟩ := CToken.approve_frame h
    exact ⟨_, _, _, hs⟩
  | approveDelegation caller asset delegatee amount =>
    obtain ⟨debtTokens, -, rfl⟩ := bind_pure_eq_ok.mp h
    exact ⟨_, _, _, rfl⟩
  | createCNFT nftAsset =>
    obtain rfl := CNFTRegistry.createCNFT_spec h
    exact ⟨_, _, _, rfl⟩

theorem TokenCall.frame {call : TokenCall} (h : call.run s = .ok s') :
    ∃ erc20 transfers erc721 cNFTs, s' = { s with erc20, transfers, erc721, cNFTs } := by
  cases call with
  | transfer caller token recipient amount =>
    obtain ⟨_, -, rfl⟩ := State.safeTransfer_eq_ok.mp h
    exact ⟨_, _, _, _, rfl⟩
  | transferFrom caller token sender recipient amount =>
    obtain ⟨_, -, rfl⟩ := State.safeTransferFrom_eq_ok.mp h
    exact ⟨_, _, _, _, rfl⟩
  | safeTransferNFT caller nftAsset sender recipient tokenId =>
    obtain ⟨-, -, -, -, -, rfl⟩ := State.safeTransferNFT_eq_ok.mp h
    exact ⟨_, _, _, _, rfl⟩
  | mintCNFT caller nftAsset recipient tokenId =>
    obtain ⟨_, -, h⟩ := bind_eq_ok.mp h
    obtain ⟨_, -, rfl⟩ := bind_pure_eq_ok.mp h
    exact ⟨_, _, _, _, rfl⟩
  | burnCNFT caller nftAsset tokenId =>
    obtain ⟨_, -, h⟩ := bind_eq_ok.mp h
    obtain ⟨_, -, rfl⟩ := bind_pure_eq_ok.mp h
    exact ⟨_, _, _, _, rfl⟩
  | _ =>
    obtain ⟨_, -, rfl⟩ := map_eq_ok.mp h
    exact ⟨_, _, _, _, rfl⟩

/-- An account cannot take tokens from a contract of the protocol. -/
theorem TokenCall.cash_le {call : TokenCall} (hg : Guarded s) (h : call.run s = .ok s')
    (token : Address) {holder : Address} (hholder : holder.isExternal = false) :
    (s.erc20 token).balances holder ≤ (s'.erc20 token).balances holder := by
  have hupdate : ∀ (other : Address) (ledger : ERC20),
      (s.erc20 other).balances holder ≤ ledger.balances holder →
        (s.erc20 token).balances holder ≤
          (Function.update s.erc20 other ledger token).balances holder := by
    intro other ledger hle
    by_cases hother : token = other
    · subst hother
      rw [Function.update_self]
      exact hle
    · rw [Function.update_of_ne hother]
  have hne : ∀ n, holder ≠ .account n := by
    rintro n rfl
    cases hholder
  cases call with
  | transfer caller other recipient amount =>
    obtain ⟨ledger, hledger, rfl⟩ := State.safeTransfer_eq_ok.mp h
    exact hupdate other ledger (ERC20.transfer_spares (hne caller) hledger)
  | transferFrom caller other sender recipient amount =>
    obtain ⟨ledger, hledger, rfl⟩ := State.safeTransferFrom_eq_ok.mp h
    exact hupdate other ledger (ERC20.transferFrom_spares (hg.allowances other) hholder hledger)
  | approve caller other spender amount =>
    obtain ⟨ledger, hledger, rfl⟩ := map_eq_ok.mp h
    obtain ⟨-, rfl⟩ := ERC20.approve_eq_ok.mp hledger
    exact hupdate other _ (Nat.le_refl _)
  | mint other recipient amount =>
    obtain ⟨ledger, hledger, rfl⟩ := map_eq_ok.mp h
    obtain ⟨-, -, -, rfl⟩ := ERC20.mint_eq_ok.mp hledger
    apply hupdate other
    simp only [Function.update_apply]
    split
    · rename_i heq
      rw [heq]
      exact Nat.le_add_right _ _
    · exact Nat.le_refl _
  | burn caller other amount =>
    obtain ⟨ledger, hledger, rfl⟩ := map_eq_ok.mp h
    obtain ⟨-, -, -, rfl⟩ := ERC20.burn_eq_ok.mp hledger
    apply hupdate other
    simp only [Function.update_of_ne (hne caller)]
    exact Nat.le_refl _
  | transferNFT | approveNFT | setApprovalForAll | mintNFT | burnNFT =>
    obtain ⟨_, -, rfl⟩ := map_eq_ok.mp h
    exact Nat.le_refl _
  | safeTransferNFT =>
    obtain ⟨-, -, -, -, -, rfl⟩ := State.safeTransferNFT_eq_ok.mp h
    exact Nat.le_refl _
  | mintCNFT | burnCNFT =>
    obtain ⟨_, -, h⟩ := bind_eq_ok.mp h
    obtain ⟨_, -, rfl⟩ := bind_pure_eq_ok.mp h
    exact Nat.le_refl _

/-- The world never turns back the clock and never sees the protocol's storage. -/
theorem WorldEvent.frame {event : WorldEvent} (h : event.run s = .ok s') :
    ∃ timestamp reserveOracle nftOracle accounts interestRates, s.timestamp ≤ timestamp ∧
      s' = { s with timestamp, reserveOracle, nftOracle, accounts, interestRates } := by
  cases event with
  | tick seconds =>
    obtain rfl := pure_eq_ok.mp h
    exact ⟨_, _, _, _, _, Nat.le_add_right _ _, rfl⟩
  | deployInterestRate n optimal base slope1 slope2 =>
    obtain ⟨_, -, h⟩ := bind_eq_ok.mp h
    obtain ⟨_, -, h⟩ := bind_eq_ok.mp h
    obtain rfl := pure_eq_ok.mp h
    exact ⟨_, _, _, _, _, Nat.le_refl _, rfl⟩
  | _ =>
    obtain rfl := pure_eq_ok.mp h
    exact ⟨_, _, _, _, _, Nat.le_refl _, rfl⟩

/-! ### The admins -/

/-- One pass of an admin call: what it does to one entry of its list. -/
inductive AdminStep (call : AdminCall) (s : State) : State → Prop
  | listReserve {inputs : List InitReserveInput} {input : InitReserveInput} {s' : State}
      (hcall : call = .batchInitReserve inputs) (hmem : input ∈ inputs)
      (h : ConfiguratorLogic.executeInitReserve s input = .ok s') : AdminStep call s s'
  | listNft {input : List Address} {asset : Address} {s' : State}
      (hcall : call = .batchInitNft input) (hmem : asset ∈ input)
      (h : ConfiguratorLogic.executeInitNft s asset = .ok s') : AdminStep call s s'
  | reserveActive {assets : List Address} {asset : Address} {flag : Bool}
      (hcall : call = .setActiveFlagOnReserve assets flag) (hmem : asset ∈ assets)
      (hcheck : flag = false → LendPoolConfigurator.checkReserveNoLiquidity s asset = .ok ()) :
      AdminStep call s (LendPool.setReserveConfiguration s asset
        ((s.pool.reserves asset).configuration.setActive flag))
  | reserveBorrowing {asset : Address} {flag : Bool} :
      AdminStep call s (LendPool.setReserveConfiguration s asset
        ((s.pool.reserves asset).configuration.setBorrowingEnabled flag))
  | reserveFrozen {asset : Address} {flag : Bool} :
      AdminStep call s (LendPool.setReserveConfiguration s asset
        ((s.pool.reserves asset).configuration.setFrozen flag))
  | reserveFactor {asset : Address} {reserveFactor : Nat} {config : ReserveConfigurationMap}
      (h : (s.pool.reserves asset).configuration.setReserveFactor reserveFactor = .ok config) :
      AdminStep call s (LendPool.setReserveConfiguration s asset config)
  | strategy {asset rateAddress : Address} :
      AdminStep call s (LendPool.setReserveInterestRateAddress s asset rateAddress)
  | nftActive {assets : List Address} {asset : Address} {flag : Bool}
      (hcall : call = .setActiveFlagOnNft assets flag) (hmem : asset ∈ assets)
      (hcheck : flag = false → LendPoolConfigurator.checkNftNoLiquidity s asset = .ok ()) :
      AdminStep call s (LendPool.setNftConfiguration s asset
        ((s.pool.nfts asset).configuration.setActive flag))
  | nftFrozen {asset : Address} {flag : Bool} :
      AdminStep call s (LendPool.setNftConfiguration s asset
        ((s.pool.nfts asset).configuration.setFrozen flag))
  | nftCollateral {asset : Address} {ltv threshold bonus : Nat} {config : NftConfigurationMap}
      (h : LendPoolConfigurator.configureCollateral ltv threshold bonus
        (s.pool.nfts asset).configuration = .ok config) :
      AdminStep call s (LendPool.setNftConfiguration s asset config)
  | nftBuyItNow {asset : Address} {redeemDuration buyItNowDuration redeemFine : Nat}
      {config : NftConfigurationMap} (hle : redeemDuration ≤ buyItNowDuration)
      (h : LendPoolConfigurator.configureBuyItNow redeemDuration buyItNowDuration redeemFine
        (s.pool.nfts asset).configuration = .ok config) :
      AdminStep call s (LendPool.setNftConfiguration s asset config)
  | nftRedeemThreshold {asset : Address} {redeemThreshold : Nat} {config : NftConfigurationMap}
      (h : (s.pool.nfts asset).configuration.setRedeemThreshold redeemThreshold = .ok config) :
      AdminStep call s (LendPool.setNftConfiguration s asset config)
  | nftMinFine {asset : Address} {minBuyItNowFine : Nat} {config : NftConfigurationMap}
      (h : (s.pool.nfts asset).configuration.setMinBuyItNowFine minBuyItNowFine = .ok config) :
      AdminStep call s (LendPool.setNftConfiguration s asset config)
  | nftBatch {inputs : List ConfigNftInput} {input : ConfigNftInput} {config : NftConfigurationMap}
      (hcall : call = .batchConfigNft inputs) (hmem : input ∈ inputs)
      (h : LendPoolConfigurator.configureNft input (s.pool.nfts input.asset).configuration =
        .ok config) :
      AdminStep call s (LendPool.setNftConfiguration s input.asset config)
  | maxReserves {val : Nat} (h : s.pool.maxNumberOfReserves < val) :
      AdminStep call s (LendPool.setMaxNumberOfReserves s val)
  | maxNfts {val : Nat} (h : s.pool.maxNumberOfNfts < val) :
      AdminStep call s (LendPool.setMaxNumberOfNfts s val)
  | pause {val : Bool} : AdminStep call s (LendPool.setPause s val)

section Admin

variable {call : AdminCall} (inv : State → Prop)

private theorem strategies_preserve (hstep : ∀ m m', AdminStep call m m' → inv m → inv m')
    (assets : List Address) (rateAddress : Address) (hinv : inv s) :
    inv (LendPoolConfigurator.setReserveInterestRateAddress s assets rateAddress) := by
  induction assets generalizing s with
  | nil => exact hinv
  | cons asset assets ih => exact ih (hstep _ _ .strategy hinv)

/-- What every pass preserves, an admin call preserves. -/
theorem AdminCall.preserves (hstep : ∀ m m', AdminStep call m m' → inv m → inv m')
    (h : call.run s = .ok s') (hinv : inv s) : inv s' := by
  cases call with
  | batchInitReserve inputs =>
    obtain ⟨_, -, h⟩ := bind_eq_ok.mp h
    apply foldlM_preserves inputs _ s s' hinv h
    exact fun m input m' hmem hm hbody => hstep m m' (.listReserve rfl hmem hbody) hm
  | batchInitNft input =>
    obtain ⟨_, -, h⟩ := bind_eq_ok.mp h
    apply foldlM_preserves input _ s s' hinv h
    exact fun m asset m' hmem hm hbody => hstep m m' (.listNft rfl hmem hbody) hm
  | setBorrowingFlagOnReserve assets flag =>
    apply foldlM_preserves assets _ s s' hinv h
    intro m asset m' _ hm hbody
    obtain ⟨_, hconfig, rfl⟩ := bind_pure_eq_ok.mp hbody
    obtain rfl := pure_eq_ok.mp hconfig
    exact hstep m _ .reserveBorrowing hm
  | setActiveFlagOnReserve assets flag =>
    apply foldlM_preserves assets _ s s' hinv h
    intro m asset m' hmem hm hbody
    obtain ⟨_, hcheck, hbody⟩ := bind_eq_ok.mp hbody
    obtain ⟨_, hconfig, rfl⟩ := bind_pure_eq_ok.mp hbody
    obtain rfl := pure_eq_ok.mp hconfig
    apply hstep m _ (.reserveActive rfl hmem _) hm
    intro hflag
    rw [if_pos hflag] at hcheck
    exact hcheck
  | setFreezeFlagOnReserve assets flag =>
    apply foldlM_preserves assets _ s s' hinv h
    intro m asset m' _ hm hbody
    obtain ⟨_, hconfig, rfl⟩ := bind_pure_eq_ok.mp hbody
    obtain rfl := pure_eq_ok.mp hconfig
    exact hstep m _ .reserveFrozen hm
  | setReserveFactor assets reserveFactor =>
    apply foldlM_preserves assets _ s s' hinv h
    intro m asset m' _ hm hbody
    obtain ⟨_, hconfig, rfl⟩ := bind_pure_eq_ok.mp hbody
    exact hstep m _ (.reserveFactor hconfig) hm
  | setReserveInterestRateAddress assets rateAddress =>
    obtain rfl := pure_eq_ok.mp h
    exact strategies_preserve inv hstep assets rateAddress hinv
  | batchConfigReserve inputs =>
    apply foldlM_preserves inputs _ s s' hinv h
    intro m input m' _ hm hbody
    obtain ⟨_, hconfig, rfl⟩ := bind_pure_eq_ok.mp hbody
    exact hstep m _ (.reserveFactor hconfig) hm
  | setActiveFlagOnNft assets flag =>
    apply foldlM_preserves assets _ s s' hinv h
    intro m asset m' hmem hm hbody
    obtain ⟨_, hcheck, hbody⟩ := bind_eq_ok.mp hbody
    obtain ⟨_, hconfig, rfl⟩ := bind_pure_eq_ok.mp hbody
    obtain rfl := pure_eq_ok.mp hconfig
    apply hstep m _ (.nftActive rfl hmem _) hm
    intro hflag
    rw [if_pos hflag] at hcheck
    exact hcheck
  | setFreezeFlagOnNft assets flag =>
    apply foldlM_preserves assets _ s s' hinv h
    intro m asset m' _ hm hbody
    obtain ⟨_, hconfig, rfl⟩ := bind_pure_eq_ok.mp hbody
    obtain rfl := pure_eq_ok.mp hconfig
    exact hstep m _ .nftFrozen hm
  | configureNftAsCollateral assets ltv threshold bonus =>
    apply foldlM_preserves assets _ s s' hinv h
    intro m asset m' _ hm hbody
    obtain ⟨_, hconfig, rfl⟩ := bind_pure_eq_ok.mp hbody
    exact hstep m _ (.nftCollateral hconfig) hm
  | configureNftAsBuyItNow assets redeemDuration buyItNowDuration redeemFine =>
    apply foldlM_preserves assets _ s s' hinv h
    intro m asset m' _ hm hbody
    obtain ⟨_, hconfig, rfl⟩ := bind_pure_eq_ok.mp hbody
    obtain ⟨_, hle, hconfig⟩ := bind_eq_ok.mp hconfig
    exact hstep m _ (.nftBuyItNow (require_eq_ok.mp hle) hconfig) hm
  | setNftRedeemThreshold assets redeemThreshold =>
    apply foldlM_preserves assets _ s s' hinv h
    intro m asset m' _ hm hbody
    obtain ⟨_, hconfig, rfl⟩ := bind_pure_eq_ok.mp hbody
    exact hstep m _ (.nftRedeemThreshold hconfig) hm
  | setNftMinBuyItNowFine assets minBuyItNowFine =>
    apply foldlM_preserves assets _ s s' hinv h
    intro m asset m' _ hm hbody
    obtain ⟨_, hconfig, rfl⟩ := bind_pure_eq_ok.mp hbody
    exact hstep m _ (.nftMinFine hconfig) hm
  | batchConfigNft inputs =>
    apply foldlM_preserves inputs _ s s' hinv h
    intro m input m' hmem hm hbody
    obtain ⟨_, hconfig, rfl⟩ := bind_pure_eq_ok.mp hbody
    exact hstep m _ (.nftBatch rfl hmem hconfig) hm
  | setMaxNumberOfReserves newVal =>
    obtain ⟨_, hmax, rfl⟩ := bind_pure_eq_ok.mp h
    exact hstep _ _ (.maxReserves (require_eq_ok.mp hmax)) hinv
  | setMaxNumberOfNfts newVal =>
    obtain ⟨_, hmax, rfl⟩ := bind_pure_eq_ok.mp h
    exact hstep _ _ (.maxNfts (require_eq_ok.mp hmax)) hinv
  | setPoolPause val =>
    obtain rfl := pure_eq_ok.mp h
    exact hstep _ _ .pause hinv

end Admin

/-- The admins write the pool's storage, the treasuries and the approvals of the
protocol's contracts. -/
structure AdminFrame (s s' : State) : Prop where
  shape : ∃ pool cTokens erc721, s' = { s with pool, cTokens, erc721 }
  ledgers : ∀ asset, (s'.cTokens asset).ledger = (s.cTokens asset).ledger
  owners : ∀ nftAsset, (s'.erc721 nftAsset).owners = (s.erc721 nftAsset).owners

theorem AdminFrame.refl (s : State) : AdminFrame s s :=
  ⟨⟨_, _, _, rfl⟩, fun _ => rfl, fun _ => rfl⟩

theorem AdminFrame.trans {s'' : State} (h : AdminFrame s s') (h' : AdminFrame s' s'') :
    AdminFrame s s'' := by
  refine ⟨?_, fun asset => (h'.ledgers asset).trans (h.ledgers asset),
    fun nftAsset => (h'.owners nftAsset).trans (h.owners nftAsset)⟩
  obtain ⟨_, _, _, rfl⟩ := h.shape
  obtain ⟨pool, cTokens, erc721, rfl⟩ := h'.shape
  exact ⟨pool, cTokens, erc721, rfl⟩

theorem AdminFrame.of_pool {pool : LendPoolStorage} (h : s' = { s with pool }) :
    AdminFrame s s' := by
  subst h
  exact ⟨⟨_, _, _, rfl⟩, fun _ => rfl, fun _ => rfl⟩

theorem AdminStep.frame {call : AdminCall} (h : AdminStep call s s') : AdminFrame s s' := by
  cases h with
  | listReserve _ _ h =>
    obtain ⟨-, pool, _, _, -, -, rfl⟩ := executeInitReserve_spec h
    refine ⟨⟨_, _, _, rfl⟩, ?_, fun _ => rfl⟩
    intro asset
    simp only [Function.update_apply]
    split
    · rename_i heq
      rw [heq]
    · rfl
  | @listNft _ asset _ _ _ h =>
    obtain ⟨-, pool, _, _, -, -, hcollection, rfl⟩ := executeInitNft_spec h
    obtain ⟨_, happroved, hcollection⟩ := bind_eq_ok.mp hcollection
    obtain ⟨-, rfl⟩ := ERC721.setApprovalForAll_eq_ok.mp happroved
    obtain ⟨-, rfl⟩ := ERC721.setApprovalForAll_eq_ok.mp hcollection
    refine ⟨⟨_, _, _, rfl⟩, fun _ => rfl, ?_⟩
    intro other
    simp only [Function.update_apply]
    split
    · rename_i heq
      rw [heq]
    · rfl
  | _ => exact AdminFrame.of_pool rfl

theorem AdminCall.frame {call : AdminCall} (h : call.run s = .ok s') : AdminFrame s s' :=
  AdminCall.preserves (AdminFrame s) (fun _ _ hstep hm => hm.trans hstep.frame) h
    (AdminFrame.refl s)

/-! ### Time -/

theorem Operation.timestamp_le {operation : Operation} (hw : Wired s) (hf : Filed s)
    (h : operation.run s = .ok s') : s.timestamp ≤ s'.timestamp := by
  cases operation with
  | user call =>
    rcases UserCall.cases hw hf h with haction | ⟨haside, -⟩
    · obtain ⟨_, _, _, _, _, hsettled⟩ := haction.settled
      exact Nat.le_of_eq hsettled.step.world.timestamp.symm
    · obtain ⟨_, _, _, rfl⟩ := UserCall.frame haside h
      exact Nat.le_refl _
  | token call =>
    obtain ⟨_, _, _, _, rfl⟩ := TokenCall.frame h
    exact Nat.le_refl _
  | admin call =>
    obtain ⟨_, _, _, rfl⟩ := (AdminCall.frame h).shape
    exact Nat.le_refl _
  | world event =>
    obtain ⟨_, _, _, _, _, hle, rfl⟩ := WorldEvent.frame h
    exact hle

end Confetti
