import Confetti.Effects.Frames
import Confetti.Invariants.Book
import Confetti.Library.Directory

/-! The pool's lists of reserves and collections. Only the two initializations write
them, each behind the last entry, and an asset is initialized once. -/
namespace Confetti
open Outcome TransitionSystem

def LendPoolStorage.reserveDirectory (self : LendPoolStorage) : Directory Address where
  entries := self.reservesList
  count := self.reservesCount
  id asset := (self.reserves asset).id
  present asset := (self.reserves asset).cTokenAddress ≠ .zero

/-- The collections as a directory; an initialized one has a cNFT. -/
def LendPoolStorage.nftDirectory (self : LendPoolStorage) : Directory Address where
  entries := self.nftsList
  count := self.nftsCount
  id asset := (self.nfts asset).id
  present asset := (self.nfts asset).cNFTAddress ≠ .zero

/-- Both lists are exact, with the ids of a `uint8`, and within the maximum in force. -/
structure AssetLists (pool : LendPoolStorage) : Prop where
  reserves : pool.reserveDirectory.Exact .zero (2 ^ 8)
  nfts : pool.nftDirectory.Exact .zero (2 ^ 8)
  reservesCount_le : pool.reservesCount ≤ pool.maxNumberOfReserves
  nftsCount_le : pool.nftsCount ≤ pool.maxNumberOfNfts

def ListsGrow (s s' : State) (newReserves newNfts : Nat) : Prop :=
  AssetLists s.pool → AssetLists s'.pool ∧
    s'.pool.reservesCount = s.pool.reservesCount + newReserves ∧
      s'.pool.nftsCount = s.pool.nftsCount + newNfts

variable {s s' s'' : State} {pool : LendPoolStorage} {asset : Address}

theorem ListsGrow.refl (s : State) : ListsGrow s s 0 0 := fun h => ⟨h, rfl, rfl⟩

theorem ListsGrow.trans {r r' n n' : Nat} (h : ListsGrow s s' r n) (h' : ListsGrow s' s'' r' n') :
    ListsGrow s s'' (r + r') (n + n') := by
  intro hlists
  obtain ⟨hmiddle, hr, hn⟩ := h hlists
  obtain ⟨hlast, hr', hn'⟩ := h' hmiddle
  exact ⟨hlast, by omega, by omega⟩

structure SameLists (pool pool' : LendPoolStorage) : Prop where
  reserves : pool'.reserveDirectory = pool.reserveDirectory
  nfts : pool'.nftDirectory = pool.nftDirectory
  maxReserves : pool.maxNumberOfReserves ≤ pool'.maxNumberOfReserves
  maxNfts : pool.maxNumberOfNfts ≤ pool'.maxNumberOfNfts

theorem SameLists.grow (h : SameLists s.pool s'.pool) : ListsGrow s s' 0 0 := by
  intro hlists
  have hreserves : s'.pool.reservesCount = s.pool.reservesCount :=
    congrArg Directory.count h.reserves
  have hnfts : s'.pool.nftsCount = s.pool.nftsCount := congrArg Directory.count h.nfts
  have hreservesMax := hlists.reservesCount_le
  have hnftsMax := hlists.nftsCount_le
  have hmaxReserves := h.maxReserves
  have hmaxNfts := h.maxNfts
  refine ⟨⟨?_, ?_, by omega, by omega⟩, hreserves, hnfts⟩
  · rw [h.reserves]
    exact hlists.reserves
  · rw [h.nfts]
    exact hlists.nfts

theorem reserveDirectory_setReserve {reserve : ReserveData}
    (hid : reserve.id = (pool.reserves asset).id)
    (hcToken : reserve.cTokenAddress = (pool.reserves asset).cTokenAddress) :
    (pool.setReserve asset reserve).reserveDirectory = pool.reserveDirectory := by
  unfold LendPoolStorage.reserveDirectory
  congr 1
  · funext other
    by_cases hother : other = asset
    · subst hother
      simp [hid]
    · simp [hother]
  · funext other
    by_cases hother : other = asset
    · subst hother
      simp [hcToken]
    · simp [hother]

theorem sameLists_setReserve {reserve : ReserveData} (hid : reserve.id = (pool.reserves asset).id)
    (hcToken : reserve.cTokenAddress = (pool.reserves asset).cTokenAddress) :
    SameLists pool (pool.setReserve asset reserve) :=
  ⟨reserveDirectory_setReserve hid hcToken, rfl, le_rfl, le_rfl⟩

theorem sameLists_setNft {nft : NftData} (hid : nft.id = (pool.nfts asset).id)
    (hcNFT : nft.cNFTAddress = (pool.nfts asset).cNFTAddress) :
    SameLists pool (pool.setNft asset nft) := by
  refine ⟨rfl, ?_, le_rfl, le_rfl⟩
  unfold LendPoolStorage.nftDirectory
  congr 1
  · funext other
    by_cases hother : other = asset
    · subst hother
      simp [LendPoolStorage.setNft, hid]
    · simp [LendPoolStorage.setNft, hother]
  · funext other
    by_cases hother : other = asset
    · subst hother
      simp [LendPoolStorage.setNft, hcNFT]
    · simp [LendPoolStorage.setNft, hother]

theorem ne_zero_of_isContract (h : s.isContract asset = true) : asset ≠ .zero := by
  rintro rfl
  cases h

/-! ### One initialization -/

theorem addReserveToList_of_new {pool' : LendPoolStorage}
    (hnew : ¬((pool.reserves asset).id ≠ 0 ∨ pool.reservesList 0 = asset))
    (h : LendPool.addReserveToList pool asset = .ok pool') :
    pool.reservesCount < pool.maxNumberOfReserves ∧ ∃ reserves reservesList reservesCount,
      pool' = { pool with reserves, reservesList, reservesCount } ∧
        reserves = Function.update pool.reserves asset
          { pool.reserves asset with id := uint8 pool.reservesCount } ∧
          reservesList = Function.update pool.reservesList pool.reservesCount asset ∧
            reservesCount = pool.reservesCount + 1 := by
  obtain ⟨_, hroom, h⟩ := bind_eq_ok.mp h
  rw [if_neg hnew] at h
  exact ⟨require_eq_ok.mp hroom, _, _, _, (pure_eq_ok.mp h).symm, rfl, rfl, rfl⟩

theorem addNftToList_of_new {pool' : LendPoolStorage}
    (hnew : ¬((pool.nfts asset).id ≠ 0 ∨ pool.nftsList 0 = asset))
    (h : LendPool.addNftToList pool asset = .ok pool') :
    pool.nftsCount < pool.maxNumberOfNfts ∧ ∃ nfts nftsList nftsCount,
      pool' = { pool with nfts, nftsList, nftsCount } ∧
        nfts = Function.update pool.nfts asset
          { pool.nfts asset with id := uint8 pool.nftsCount } ∧
          nftsList = Function.update pool.nftsList pool.nftsCount asset ∧
            nftsCount = pool.nftsCount + 1 := by
  obtain ⟨_, hroom, h⟩ := bind_eq_ok.mp h
  rw [if_neg hnew] at h
  exact ⟨require_eq_ok.mp hroom, _, _, _, (pure_eq_ok.mp h).symm, rfl, rfl, rfl⟩

theorem reserveDirectory_append {pool' : LendPoolStorage} {reserve : ReserveData}
    (hreserves : pool'.reserves = Function.update pool.reserves asset reserve)
    (hlist : pool'.reservesList = Function.update pool.reservesList pool.reservesCount asset)
    (hcount : pool'.reservesCount = pool.reservesCount + 1)
    (hid : reserve.id = uint8 pool.reservesCount) (hcToken : reserve.cTokenAddress ≠ .zero) :
    pool'.reserveDirectory = pool.reserveDirectory.append asset (2 ^ 8) := by
  unfold LendPoolStorage.reserveDirectory Directory.append
  rw [hreserves, hlist, hcount]
  congr 1
  · funext other
    by_cases hother : other = asset
    · subst hother
      rw [Function.update_self, Function.update_self]
      exact hid
    · simp [hother]
  · funext other
    by_cases hother : other = asset
    · subst hother
      simpa using hcToken
    · simp [hother]

theorem nftDirectory_append {pool' : LendPoolStorage} {nft : NftData}
    (hnfts : pool'.nfts = Function.update pool.nfts asset nft)
    (hlist : pool'.nftsList = Function.update pool.nftsList pool.nftsCount asset)
    (hcount : pool'.nftsCount = pool.nftsCount + 1) (hid : nft.id = uint8 pool.nftsCount)
    (hcNFT : nft.cNFTAddress ≠ .zero) :
    pool'.nftDirectory = pool.nftDirectory.append asset (2 ^ 8) := by
  unfold LendPoolStorage.nftDirectory Directory.append
  rw [hnfts, hlist, hcount]
  congr 1
  · funext other
    by_cases hother : other = asset
    · subst hother
      rw [Function.update_self, Function.update_self]
      exact hid
    · simp [hother]
  · funext other
    by_cases hother : other = asset
    · subst hother
      simpa using hcNFT
    · simp [hother]

theorem initReserve_grows {cToken debtToken interestRate : Address} (hcToken : cToken ≠ .zero)
    (h : LendPool.initReserve s asset cToken debtToken interestRate = .ok s') :
    ListsGrow s s' 1 0 := by
  intro hlists
  simp only [LendPool.initReserve, bind_eq_ok, require_eq_ok, exists_const, pure_eq_ok] at h
  obtain ⟨hcontract, reserve, hinit, pool, hpool, rfl⟩ := h
  obtain ⟨hfresh, hreserve⟩ := ReserveLogic.init_eq_ok.mp hinit
  have hid : reserve.id = (s.pool.reserves asset).id := by rw [hreserve]
  have hset : reserve.cTokenAddress = cToken := by rw [hreserve]
  have habsent : ¬s.pool.reserveDirectory.present asset := not_not.mpr hfresh
  have hne := ne_zero_of_isContract hcontract
  have hnew : ¬(((s.pool.setReserve asset reserve).reserves asset).id ≠ 0 ∨
      (s.pool.setReserve asset reserve).reservesList 0 = asset) := by
    rw [LendPoolStorage.setReserve_reserves, Function.update_self, hid]
    exact hlists.reserves.not_added habsent hne
  obtain ⟨hroom, reserves, reservesList, reservesCount, rfl, hreserves, hlist, hcount⟩ :=
    addReserveToList_of_new hnew hpool
  rw [LendPoolStorage.setReserve_reserves, Function.update_self, Function.update_idem] at hreserves
  have hdirectory := hlists.reserves.append habsent hne
  have hroom' : s.pool.reservesCount + 1 ≤ s.pool.maxNumberOfReserves := hroom
  refine ⟨⟨?_, hlists.nfts, ?_, hlists.nftsCount_le⟩, hcount, rfl⟩
  · rw [reserveDirectory_append hreserves hlist hcount rfl (by rwa [hset])]
    exact hdirectory
  · change reservesCount ≤ s.pool.maxNumberOfReserves
    rw [hcount]
    exact hroom'

theorem initNft_grows {cNFT : Address} (hcNFT : cNFT ≠ .zero)
    (h : LendPool.initNft s asset cNFT = .ok s') : ListsGrow s s' 0 1 := by
  intro hlists
  simp only [LendPool.initNft, LendPool.initNftData, bind_eq_ok, require_eq_ok, exists_const,
    pure_eq_ok] at h
  obtain ⟨hcontract, nft, ⟨hfresh, hnft⟩, pool, hpool, _, -, _, -, rfl⟩ := h
  have hid : nft.id = (s.pool.nfts asset).id := by rw [← hnft]
  have hset : nft.cNFTAddress = cNFT := by rw [← hnft]
  have habsent : ¬s.pool.nftDirectory.present asset := not_not.mpr hfresh
  have hne := ne_zero_of_isContract hcontract
  have hself : (s.pool.setNft asset nft).nfts asset = nft := Function.update_self _ _ _
  have hnew : ¬(((s.pool.setNft asset nft).nfts asset).id ≠ 0 ∨
      (s.pool.setNft asset nft).nftsList 0 = asset) := by
    rw [hself, hid]
    exact hlists.nfts.not_added habsent hne
  obtain ⟨hroom, nfts, nftsList, nftsCount, rfl, hnfts, hlist, hcount⟩ :=
    addNftToList_of_new hnew hpool
  have hnfts' : nfts = Function.update s.pool.nfts asset
      { nft with id := uint8 s.pool.nftsCount } := by
    rw [hnfts, hself]
    exact Function.update_idem _ _ _
  have hdirectory := hlists.nfts.append habsent hne
  have hroom' : s.pool.nftsCount + 1 ≤ s.pool.maxNumberOfNfts := hroom
  refine ⟨⟨hlists.reserves, ?_, hlists.reservesCount_le, ?_⟩, rfl, hcount⟩
  · rw [nftDirectory_append hnfts' hlist hcount rfl (by rwa [hset])]
    exact hdirectory
  · change nftsCount ≤ s.pool.maxNumberOfNfts
    rw [hcount]
    exact hroom'

theorem setReserveConfiguration_grows (s : State) (asset : Address)
    (config : ReserveConfigurationMap) :
    ListsGrow s (LendPool.setReserveConfiguration s asset config) 0 0 :=
  SameLists.grow (sameLists_setReserve rfl rfl)

theorem setNftConfiguration_grows (s : State) (asset : Address) (config : NftConfigurationMap) :
    ListsGrow s (LendPool.setNftConfiguration s asset config) 0 0 :=
  SameLists.grow (sameLists_setNft rfl rfl)

theorem executeInitReserve_grows {input : InitReserveInput}
    (h : ConfiguratorLogic.executeInitReserve s input = .ok s') : ListsGrow s s' 1 0 := by
  simp only [ConfiguratorLogic.executeInitReserve, bind_eq_ok, pure_eq_ok] at h
  obtain ⟨m, hinit, config, -, rfl⟩ := h
  have hgrown := initReserve_grows (by simp) hinit
  exact ListsGrow.trans hgrown (setReserveConfiguration_grows m _ _)

theorem executeInitNft_grows (h : ConfiguratorLogic.executeInitNft s asset = .ok s') :
    ListsGrow s s' 0 1 := by
  simp only [ConfiguratorLogic.executeInitNft, bind_eq_ok, require_eq_ok, exists_const,
    pure_eq_ok] at h
  obtain ⟨hproxy, m, hinit, rfl⟩ := h
  exact (initNft_grows hproxy hinit).trans (setNftConfiguration_grows m _ _)

/-! ### One operation -/

theorem ListsGrow.foldlM {α : Type} {body : State → α → Except Revert State} {r n : Nat}
    (hbody : ∀ m a m', body m a = .ok m' → ListsGrow m m' r n) (xs : List α)
    (h : xs.foldlM body s = .ok s') : ListsGrow s s' (xs.length * r) (xs.length * n) := by
  induction xs generalizing s with
  | nil =>
    obtain rfl := pure_eq_ok.mp h
    simpa using ListsGrow.refl s
  | cons x xs ih =>
    rw [List.foldlM_cons] at h
    obtain ⟨m, hm, h⟩ := bind_eq_ok.mp h
    have hgrown := (hbody s x m hm).trans (ih h)
    have hr : (x :: xs).length * r = r + xs.length * r := by
      rw [List.length_cons, Nat.succ_mul, Nat.add_comm]
    have hn : (x :: xs).length * n = n + xs.length * n := by
      rw [List.length_cons, Nat.succ_mul, Nat.add_comm]
    rw [hr, hn]
    exact hgrown

def Operation.newReserves : Operation → Nat
  | .admin (.batchInitReserve inputs) => inputs.length
  | _ => 0

def Operation.newNfts : Operation → Nat
  | .admin (.batchInitNft assets) => assets.length
  | _ => 0

theorem AdminStep.sameLists {call : AdminCall} (h : AdminStep call s s')
    (hreserves : ∀ inputs, call ≠ .batchInitReserve inputs)
    (hnfts : ∀ assets, call ≠ .batchInitNft assets) : ListsGrow s s' 0 0 := by
  cases h with
  | listReserve hcall => exact absurd hcall (hreserves _)
  | listNft hcall => exact absurd hcall (hnfts _)
  | reserveActive | reserveBorrowing | reserveFrozen | reserveFactor =>
    exact setReserveConfiguration_grows s _ _
  | nftActive | nftFrozen | nftCollateral | nftBuyItNow | nftRedeemThreshold | nftMinFine =>
    exact setNftConfiguration_grows s _ _
  | nftBatch => exact setNftConfiguration_grows s _ _
  | strategy => exact SameLists.grow (sameLists_setReserve rfl rfl)
  | maxReserves hmax => exact SameLists.grow ⟨rfl, rfl, hmax.le, le_rfl⟩
  | maxNfts hmax => exact SameLists.grow ⟨rfl, rfl, le_rfl, hmax.le⟩
  | pause => exact SameLists.grow ⟨rfl, rfl, le_rfl, le_rfl⟩

theorem AdminCall.grows {call : AdminCall} (h : call.run s = .ok s') :
    ListsGrow s s' (Operation.admin call).newReserves (Operation.admin call).newNfts := by
  have hother : (∀ inputs, call ≠ .batchInitReserve inputs) →
      (∀ assets, call ≠ .batchInitNft assets) → ListsGrow s s' 0 0 := by
    intro hreserves hnfts
    apply AdminCall.preserves (fun m => ListsGrow s m 0 0) _ h (ListsGrow.refl s)
    intro m m' hstep hm
    exact hm.trans (hstep.sameLists hreserves hnfts)
  cases call with
  | batchInitReserve inputs =>
    obtain ⟨_, -, h⟩ := bind_eq_ok.mp h
    have hgrown := ListsGrow.foldlM (fun _ _ _ => executeInitReserve_grows) inputs h
    simpa [Operation.newReserves, Operation.newNfts] using hgrown
  | batchInitNft assets =>
    obtain ⟨_, -, h⟩ := bind_eq_ok.mp h
    have hgrown := ListsGrow.foldlM (fun _ _ _ => executeInitNft_grows) assets h
    simpa [Operation.newReserves, Operation.newNfts] using hgrown
  | _ =>
    apply hother
    · intro _ heq
      cases heq
    · intro _ heq
      cases heq

theorem Operation.grows {operation : Operation} (hreg : Regular s)
    (h : operation.run s = .ok s') :
    ListsGrow s s' operation.newReserves operation.newNfts := by
  cases operation with
  | user call =>
    rcases UserCall.cases hreg.sound.wired hreg.book.toFiled h with haction | ⟨haside, -⟩
    · obtain ⟨asset, li, vi, _, _, hsettled⟩ := haction.settled
      obtain ⟨liquidityRate, variableRate, hpool⟩ := hsettled.step.pool
      apply SameLists.grow
      rw [hpool]
      exact sameLists_setReserve rfl rfl
    · obtain ⟨_, _, _, rfl⟩ := UserCall.frame haside h
      exact ListsGrow.refl s
  | token call =>
    obtain ⟨_, _, _, _, rfl⟩ := TokenCall.frame h
    exact ListsGrow.refl s
  | admin call => exact AdminCall.grows h
  | world event =>
    obtain ⟨_, _, _, _, _, -, rfl⟩ := WorldEvent.frame h
    exact ListsGrow.refl s

theorem Genesis.assetLists (h : Genesis s) : AssetLists s.pool := by
  rw [h.pool]
  refine ⟨?_, ?_, Nat.zero_le _, Nat.zero_le _⟩
  · exact Directory.exact_of_empty rfl (fun _ hne => hne rfl) (fun _ => rfl) fun _ => rfl
  · exact Directory.exact_of_empty rfl (fun _ hne => hne rfl) (fun _ => rfl) fun _ => rfl

theorem assetLists_of_reachable (h : Reachable operations s) : AssetLists s.pool := by
  apply h.invariant
  · exact fun s hs => Genesis.assetLists hs
  · intro s operation s' hs hlists hrun
    exact (Operation.grows (regular_of_reachable hs) hrun hlists).1

theorem ne_zero_of_listed (h : Reachable operations s)
    (hlisted : (s.pool.reserves asset).cTokenAddress ≠ .zero) : asset ≠ .zero := by
  rintro rfl
  exact (assetLists_of_reachable h).reserves.blank_absent hlisted

end Confetti
