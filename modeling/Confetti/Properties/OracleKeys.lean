import Confetti.Invariants.PriceFeeds
import Confetti.Oracle.ReserveOracle

/-! The key lists of the two oracles are exactly the keys their maps know. -/
namespace Confetti
open Outcome TransitionSystem

namespace ReserveOracle

variable {o : ReserveOracle} {key : Address}

theorem KeysValid.isExistedKey_iff (h : KeysValid o) :
    o.isExistedKey key = true ↔ o.priceFeedMap key ≠ .zero := by
  rw [← h.mem_iff]
  simp [isExistedKey]

/-- Whatever the zero address answers, the price is the same: it is not asked. -/
theorem KeysValid.getAssetPrice_congr (h : KeysValid o)
    {feeds feeds' : Address → AggregatorV3Interface}
    (hfeeds : ∀ aggregator, aggregator ≠ .zero → feeds aggregator = feeds' aggregator)
    (key : Address) : o.getAssetPrice feeds key = o.getAssetPrice feeds' key := by
  unfold getAssetPrice
  by_cases hexists : o.isExistedKey key = true
  · have haggregator : feeds (o.getAggregator key) = feeds' (o.getAggregator key) :=
      hfeeds _ (h.isExistedKey_iff.mp hexists)
    simp only [haggregator]
  · have hrefused : require (o.isExistedKey key = true)
        (.message "ReserveOracle: key not existed" : Revert) =
          .error (.message "ReserveOracle: key not existed") := if_neg hexists
    rw [hrefused]
    rfl

end ReserveOracle

section Keys

variable {n : NFTOracle} {r : ReserveOracle}

/-- In the NFT oracle a key is listed once when its asset is registered, and an asset that is
not, above all a removed one, has no records. In the reserve oracle a key is listed once when
it has a feed; the search for a key finds just those, and the zero address is never asked for
a price. -/
theorem oracle_keys_exact (hn : Reachable nftOracles n) (hr : Reachable reserveOracles r) :
    (n.nftPriceFeedKeys.Nodup ∧
      (∀ asset, asset ∈ n.nftPriceFeedKeys ↔ (n.nftPriceFeedMap asset).registered = true) ∧
      (∀ asset, (n.nftPriceFeedMap asset).registered = false →
        (n.nftPriceFeedMap asset).nftPriceData = []) ∧
      ∀ caller asset n', n.removeAsset caller asset = .ok n' →
        (n'.nftPriceFeedMap asset).registered = false ∧
          (n'.nftPriceFeedMap asset).nftPriceData = []) ∧
    (r.priceFeedKeys.Nodup ∧
      (∀ key, key ∈ r.priceFeedKeys ↔ r.priceFeedMap key ≠ .zero) ∧
      (∀ key, r.isExistedKey key = true ↔ r.priceFeedMap key ≠ .zero) ∧
      ∀ feeds feeds' key,
        (∀ aggregator, aggregator ≠ .zero → feeds aggregator = feeds' aggregator) →
        r.getAssetPrice feeds key = r.getAssetPrice feeds' key) := by
  have hfeeds := nftOracles_feedsValid hn
  have hkeys := reserveOracles_keysValid hr
  constructor
  · refine ⟨hfeeds.keys.nodup, hfeeds.keys.mem_iff, hfeeds.unregistered, ?_⟩
    intro caller asset n' hremove
    have hremoved := NFTOracle.Removed.of_ok hremove
    rw [hremoved.result]
    simp [NFTPriceFeed.empty]
  · refine ⟨hkeys.nodup, hkeys.mem_iff, fun key => hkeys.isExistedKey_iff, ?_⟩
    intro feeds feeds' key hsame
    exact hkeys.getAssetPrice_congr hsame key

def sampleReserveOracle : ReserveOracle := ⟨.account 0, fun _ => .zero, [], .account 100⟩

theorem sampleReserveOracle_reachable : Reachable reserveOracles sampleReserveOracle :=
  .initial ⟨rfl, rfl⟩

/-- The first of two assets is removed, and a feed is replaced before the other one goes. -/
theorem oracle_keys_exact_edited :
    let n := replayed nftOracles sampleNFTOracle
      [.call (.account 0) (.setAssets [.account 7, .account 8]),
        .call (.account 0) (.removeAsset (.account 7))]
    let r := replayed reserveOracles sampleReserveOracle
      [⟨.account 0, .setAggregators [.account 3, .account 4, .account 3]
          [.account 30, .account 40, .account 31]⟩,
        ⟨.account 0, .removeAggregator (.account 4)⟩]
    n.nftPriceFeedKeys = [.account 8] ∧ r.priceFeedKeys = [.account 3] ∧
      r.isExistedKey (.account 3) = true ∧ n.nftPriceFeedKeys.Nodup := by
  intro n r
  have hn : Reachable nftOracles n := replayed_reachable sampleNFTOracle_reachable _
  have hr : Reachable reserveOracles r := replayed_reachable sampleReserveOracle_reachable _
  have hexact := oracle_keys_exact hn hr
  have hfeed : r.priceFeedMap (.account 3) ≠ .zero := by decide +kernel
  refine ⟨by decide +kernel, by decide +kernel, ?_, hexact.1.1⟩
  exact (hexact.2.2.2.1 (.account 3)).mpr hfeed

end Keys

end Confetti
