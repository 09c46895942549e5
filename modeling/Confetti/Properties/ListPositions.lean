import Confetti.Invariants.AssetLists
import Confetti.Protocol.Deployment

/-! The ids of listed assets. They are documented as positions, but stored in eight bits
while the maximum number of assets may be raised beyond that. -/
namespace Confetti
open Outcome TransitionSystem

/-- Looking up an initialized asset's id in the list gives the asset. -/
structure IdsArePositions (pool : LendPoolStorage) : Prop where
  reserve : ∀ asset, (pool.reserves asset).cTokenAddress ≠ .zero →
    pool.reservesList (pool.reserves asset).id = asset
  nft : ∀ asset, (pool.nfts asset).cNFTAddress ≠ .zero →
    pool.nftsList (pool.nfts asset).id = asset

/-- Both lists return exactly what is initialized, once each, within the maximum. -/
structure ListsReturned (s : State) : Prop where
  reserves : ∀ asset, asset ∈ LendPool.getReservesList s ↔
    (s.pool.reserves asset).cTokenAddress ≠ .zero
  reserves_nodup : (LendPool.getReservesList s).Nodup
  reserves_length : (LendPool.getReservesList s).length ≤ s.pool.maxNumberOfReserves
  nfts : ∀ asset, asset ∈ LendPool.getNftsList s ↔ (s.pool.nfts asset).cNFTAddress ≠ .zero
  nfts_nodup : (LendPool.getNftsList s).Nodup
  nfts_length : (LendPool.getNftsList s).length ≤ s.pool.maxNumberOfNfts

/-- With what the operation initializes there are at most 256 assets of each kind. -/
def Operation.FitsIds (s : State) (operation : Operation) : Prop :=
  s.pool.reservesCount + operation.newReserves ≤ 2 ^ 8 ∧
    s.pool.nftsCount + operation.newNfts ≤ 2 ^ 8

instance (s : State) (operation : Operation) : Decidable (operation.FitsIds s) :=
  inferInstanceAs (Decidable (_ ∧ _))

variable {s₀ s : State} {history : List (Transition State Operation)}

theorem AssetLists.returned (h : AssetLists s.pool) : ListsReturned s where
  reserves _ := h.reserves.mem_toList
  reserves_nodup := h.reserves.nodup_toList
  reserves_length := by
    have hlength : (LendPool.getReservesList s).length = s.pool.reservesCount :=
      Directory.length_toList s.pool.reserveDirectory
    rw [hlength]
    exact h.reservesCount_le
  nfts _ := h.nfts.mem_toList
  nfts_nodup := h.nfts.nodup_toList
  nfts_length := by
    have hlength : (LendPool.getNftsList s).length = s.pool.nftsCount :=
      Directory.length_toList s.pool.nftDirectory
    rw [hlength]
    exact h.nftsCount_le

theorem AssetLists.positions_iff {pool : LendPoolStorage} (h : AssetLists pool) :
    IdsArePositions pool ↔ pool.reservesCount ≤ 2 ^ 8 ∧ pool.nftsCount ≤ 2 ^ 8 := by
  have hreserves : pool.reserveDirectory.Positioned ↔ pool.reservesCount ≤ 2 ^ 8 :=
    h.reserves.positioned_iff (by decide)
  have hnfts : pool.nftDirectory.Positioned ↔ pool.nftsCount ≤ 2 ^ 8 :=
    h.nfts.positioned_iff (by decide)
  rw [← hreserves, ← hnfts]
  constructor
  · exact fun hids => ⟨hids.reserve, hids.nft⟩
  · exact fun hids => ⟨hids.1, hids.2⟩

/-- The counters never fall, so they are small at the end exactly if no step raised them
past the width. -/
theorem counts_fit_iff (hs₀ : Genesis s₀) (hrun : Run operations s₀ history s) :
    s.pool.reservesCount ≤ 2 ^ 8 ∧ s.pool.nftsCount ≤ 2 ^ 8 ↔
      ∀ t ∈ history, t.label.FitsIds t.pre := by
  induction hrun with
  | nil =>
    rw [hs₀.pool]
    simp [LendPoolStorage.deployed]
  | @snoc m s' operation history hrun hstep ih =>
    have hm : Reachable operations m := hrun.reachable (.initial hs₀)
    obtain ⟨-, hreserves, hnfts⟩ :=
      Operation.grows (regular_of_reachable hm) hstep (assetLists_of_reachable hm)
    simp only [List.mem_append, List.mem_singleton]
    constructor
    · intro hfit t ht
      rcases ht with ht | rfl
      · exact ih.mp (by omega) t ht
      · have hfits : Operation.FitsIds m operation := ⟨by omega, by omega⟩
        exact hfits
    · intro hall
      have hbefore := ih.mpr fun t ht => hall t (.inl ht)
      have hlast : Operation.FitsIds m operation := hall _ (.inr rfl)
      obtain ⟨hr, hn⟩ := hlast
      omega

/-- In every run the lists are exact, and the ids are positions exactly if no step of the
run initializes a reserve or a collection beyond the first 256. -/
theorem ids_are_positions_iff (hs₀ : Genesis s₀) (hrun : Run operations s₀ history s) :
    ListsReturned s ∧
      (IdsArePositions s.pool ↔ ∀ t ∈ history, t.label.FitsIds t.pre) := by
  have hlists := assetLists_of_reachable (hrun.reachable (.initial hs₀))
  refine ⟨hlists.returned, ?_⟩
  rw [hlists.positions_iff]
  exact counts_fit_iff hs₀ hrun

/-- The calls that open two markets. -/
def sampleOpenings : List Operation :=
  sampleMarket.opening ++
    { sampleMarket with asset := .account 101, rate := 301, nftAsset := .account 201 }.opening

def sampleOpened : State := replayed operations sampleWorld sampleOpenings

/-- Two reserves and two collections. -/
theorem ids_are_positions_sample :
    LendPool.getReservesList sampleOpened = [.account 100, .account 101] ∧
      LendPool.getNftsList sampleOpened = [.account 200, .account 201] ∧
      ListsReturned sampleOpened ∧ IdsArePositions sampleOpened.pool := by
  have hgenesis : Genesis sampleWorld := State.fresh_genesis (by decide) _ _ _
  have h := ids_are_positions_iff hgenesis (trace_run sampleWorld sampleOpenings)
  have hfits : ∀ t ∈ trace operations sampleWorld sampleOpenings, t.label.FitsIds t.pre := by
    decide +kernel
  exact ⟨by decide +kernel, by decide +kernel, h.1, h.2.mpr hfits⟩

/-- The maximum raised to 300, and 257 reserves initialized. -/
def crowded : State :=
  replayed operations sampleWorld
    [.admin (.setMaxNumberOfReserves 300), .admin (.batchInitReserve
      ((List.range 257).map fun i => ⟨18, .account 300, .account (100 + i), .account 9⟩))]

/-- The id of the last reserve is that of the first. -/
theorem crowded_id_wraps :
    Reachable operations crowded ∧
      (crowded.pool.reserves (.account 356)).cTokenAddress ≠ .zero ∧
        crowded.pool.reservesList (crowded.pool.reserves (.account 356)).id = .account 100 := by
  refine ⟨fresh_reachable (by decide) _ _ _ _, ?_⟩
  decide +kernel

end Confetti
