import Confetti.Invariants.PriceFeeds
import Confetti.Protocol.System
import Mathlib.Algebra.Order.Floor.Semifield

/-! The price the oracle answers is the average of the prices in force over a window, as of
the last report. -/
namespace Confetti
open Outcome TransitionSystem

/-- A price is the time-weighted average of a history over a window, rounded down. A window
that is empty, or in which nothing was reported, has the latest price. -/
structure IsTwap (data : List NFTPriceData) (start now price : Nat) : Prop where
  average : start < now →
    price = ⌊(∫ time in (start : ℝ)..now, (priceInForce data time : ℝ)) / (now - start : ℝ)⌋₊
  latest : ∀ last, data.getLast? = some last → now ≤ start ∨ last.timestamp ≤ start →
    price = last.price
  above : ∃ time ∈ Set.Icc (start : ℝ) now, priceInForce data time ≤ price
  below : ∃ time ∈ Set.Icc (start : ℝ) now, price ≤ priceInForce data time

namespace NFTOracle

variable {o o' : NFTOracle} {asset : Address} {price : Nat} {first last : NFTPriceData}
  {older : List NFTPriceData}

/-- The window of an asset: the interval before now, as far as there are records. -/
def windowOpens (o : NFTOracle) (asset : Address) : Nat :=
  match (o.nftPriceData asset).head? with
  | some first => max (o.timestamp - o.twapInterval) first.timestamp
  | none => o.timestamp - o.twapInterval

theorem windowOpens_eq (h : (o.nftPriceData asset).head? = some first) :
    o.windowOpens asset = o.twapStart first := by
  unfold windowOpens
  rw [h]
  rfl

theorem calculateTwapPrice_window (h : o.calculateTwapPrice asset = .ok price) :
    o.isExistedKey asset = true ∧ 0 < o.twapInterval ∧ o.twapInterval ≤ o.timestamp ∧
      o.nftPriceData asset ≠ [] := by
  unfold calculateTwapPrice at h
  obtain ⟨_, hkey, h⟩ := bind_eq_ok.mp h
  obtain ⟨_, hinterval, h⟩ := bind_eq_ok.mp h
  obtain ⟨_, hlength, h⟩ := bind_eq_ok.mp h
  obtain ⟨_, -, h⟩ := bind_eq_ok.mp h
  obtain ⟨_, hbase, h⟩ := bind_eq_ok.mp h
  have hpositive : o.twapInterval ≠ 0 := require_eq_ok.mp hinterval
  have hsome : 0 < (o.nftPriceData asset).length := require_eq_ok.mp hlength
  exact ⟨require_eq_ok.mp hkey, Nat.pos_of_ne_zero hpositive, (Uint256.sub_eq_ok.mp hbase).1,
    List.ne_nil_of_length_pos hsome⟩

private theorem exists_records (h : o.nftPriceData asset ≠ []) :
    ∃ first older last, o.nftPriceData asset = older ++ [last] ∧
      (o.nftPriceData asset).head? = some first ∧ (older ++ [last])[0]? = some first := by
  have hlast := (List.dropLast_append_getLast h).symm
  have hfirst := List.head?_eq_some_head h
  refine ⟨_, _, _, hlast, hfirst, ?_⟩
  rw [← hlast, ← List.head?_eq_getElem?]
  exact hfirst

private theorem twapStart_bounds (hrecorded : PriceHistory (o.nftPriceData asset) o.timestamp)
    (hfirst : (o.nftPriceData asset).head? = some first) :
    first.timestamp ≤ o.twapStart first ∧ o.twapStart first ≤ o.timestamp := by
  refine ⟨Nat.le_max_right _ _, Nat.max_le.mpr ⟨Nat.sub_le _ _, ?_⟩⟩
  exact hrecorded.started first (List.mem_of_head? hfirst)

theorem calculateTwapPrice_returns (hrecorded : PriceHistory (o.nftPriceData asset) o.timestamp)
    (hkey : o.isExistedKey asset = true) (hinterval : 0 < o.twapInterval)
    (hle : o.twapInterval ≤ o.timestamp) (hdata : o.nftPriceData asset ≠ [])
    (hfits : ∫ time in (o.windowOpens asset : ℝ)..o.timestamp,
      (priceInForce (o.nftPriceData asset) time : ℝ) ≤ Uint256.max) :
    ∃ price, o.calculateTwapPrice asset = .ok price := by
  obtain ⟨first, older, last, hrecords, hfirst, hhead⟩ := exists_records hdata
  have hbounds := twapStart_bounds hrecorded hfirst
  rw [windowOpens_eq hfirst, integral_priceInForce _ hbounds.2, Nat.cast_le, hrecords] at hfits
  rw [hrecords] at hrecorded
  exact (calculateTwapPrice_spec hkey hinterval hle hrecords hrecorded hhead).1 hfits

/-! An average over whole seconds lies between prices in force. -/

private theorem exists_price_le {data : List NFTPriceData} {a b : Nat} (h : a < b) :
    ∃ time ∈ Set.Icc (a : ℝ) b, priceInForce data time ≤ weightedTotal data a b / (b - a) := by
  obtain ⟨t, hat, htb, hle⟩ := StepFunction.exists_le_average h
  refine ⟨t, ⟨Nat.cast_le.mpr hat, Nat.cast_le.mpr htb.le⟩, ?_⟩
  rw [priceInForce_cast]
  exact hle

private theorem exists_le_price {data : List NFTPriceData} {a b : Nat} (h : a < b) :
    ∃ time ∈ Set.Icc (a : ℝ) b, weightedTotal data a b / (b - a) ≤ priceInForce data time := by
  obtain ⟨t, hat, htb, hle⟩ := StepFunction.exists_average_le h
  refine ⟨t, ⟨Nat.cast_le.mpr hat, Nat.cast_le.mpr htb.le⟩, ?_⟩
  rw [priceInForce_cast]
  exact hle

theorem isTwap_of_ok (hrecorded : PriceHistory (o.nftPriceData asset) o.timestamp)
    (h : o.calculateTwapPrice asset = .ok price) :
    IsTwap (o.nftPriceData asset) (o.windowOpens asset) o.timestamp price := by
  obtain ⟨hkey, hinterval, hle, hdata⟩ := calculateTwapPrice_window h
  obtain ⟨first, older, last, hrecords, hfirst, hhead⟩ := exists_records hdata
  have hbounds := (twapStart_bounds hrecorded hfirst).2
  rw [windowOpens_eq hfirst]
  rw [hrecords] at hrecorded ⊢
  obtain ⟨haverage, hlatest⟩ :=
    (calculateTwapPrice_spec hkey hinterval hle hrecords hrecorded hhead).2 price h
  have hnow := hrecorded.started last (List.mem_append_right _ List.mem_cons_self)
  have hlatest' : o.timestamp ≤ o.twapStart first ∨ last.timestamp ≤ o.twapStart first →
      price = last.price := by
    intro hlate
    apply hlatest
    rcases hlate with hempty | hbefore
    · exact hnow.trans hempty
    · exact hbefore
  refine ⟨fun hlt => ?_, fun found hfound => ?_, ?_, ?_⟩
  · rw [integral_priceInForce _ hbounds, ← Nat.cast_sub hbounds, Nat.floor_div_eq_div]
    exact haverage hlt
  · rw [List.getLast?_concat] at hfound
    rw [← Option.some.inj hfound]
    exact hlatest'
  · rcases Nat.lt_or_ge (o.twapStart first) o.timestamp with hlt | hempty
    · rw [haverage hlt]
      exact exists_price_le hlt
    · rw [hlatest' (.inl hempty)]
      exact ⟨o.timestamp, ⟨Nat.cast_le.mpr hbounds, le_rfl⟩, (priceInForce_concat_of_le hnow).le⟩
  · rcases Nat.lt_or_ge (o.twapStart first) o.timestamp with hlt | hempty
    · rw [haverage hlt]
      exact exists_le_price hlt
    · rw [hlatest' (.inl hempty)]
      exact ⟨o.timestamp, ⟨Nat.cast_le.mpr hbounds, le_rfl⟩, (priceInForce_concat_of_le hnow).ge⟩

theorem twap_pos (hrecorded : PriceHistory (o.nftPriceData asset) o.timestamp)
    (h : o.calculateTwapPrice asset = .ok price) : 0 < price := by
  obtain ⟨first, _, _, _, hfirst, _⟩ := exists_records (calculateTwapPrice_window h).2.2.2
  obtain ⟨time, ⟨hstart, -⟩, hle⟩ := (isTwap_of_ok hrecorded h).above
  have hfirstle := (twapStart_bounds hrecorded hfirst).1
  rw [windowOpens_eq hfirst] at hstart
  refine lt_of_lt_of_le (priceInForce_pos hrecorded ?_) hle
  refine ⟨first, List.mem_of_head? hfirst, ?_⟩
  exact (Nat.cast_le.mpr hfirstle).trans hstart

/-! ### What is on file -/

/-- The average on file was computed by the last report since the asset was registered. -/
theorem exists_last_report {o₀ : NFTOracle} {history : List (Transition NFTOracle NFTOracleStep)}
    (hdeployed : o₀.Deployed) (hrun : Run nftOracles o₀ history o)
    (hdata : o.nftPriceData asset ≠ []) :
    ∃ before update after, history = before ++ update :: after ∧
      (∃ caller reported, update.label = .call caller (.setAssetData asset reported)) ∧
      (∀ later ∈ after, ¬later.label.Concerns asset) ∧
      update.post.nftPriceData asset = o.nftPriceData asset ∧
      update.post.calculateTwapPrice asset = .ok (o.twapPriceMap asset) := by
  have hkeep : ∀ m label m', ¬NFTOracleStep.Concerns asset label →
      nftOracles.step m label = .ok m' → report asset m' = report asset m := by
    intro m label m' hlabel hstep
    exact (FeedEffect.of_ok hstep).report_eq hlabel
  rcases hrun.last_write hkeep with
    hnone | ⟨before, ⟨pre, label, post⟩, after, heq, hlabel, hview, hafter⟩
  · -- nothing was reported since the deployment
    have hempty : o₀.nftPriceData asset = [] := by
      unfold nftPriceData
      rw [hdeployed.nftPriceFeedMap]
      rfl
    exact absurd ((congrArg Prod.fst hnone).trans hempty) hdata
  · have hmem : ⟨pre, label, post⟩ ∈ history := by
      rw [heq]
      exact List.mem_append_right _ List.mem_cons_self
    have hstep := (hrun.transition_reachable (.initial hdeployed) _ hmem).2
    have hpost : o.nftPriceData asset = post.nftPriceData asset := congrArg Prod.fst hview
    have hfile : o.twapPriceMap asset = post.twapPriceMap asset := congrArg Prod.snd hview
    refine ⟨before, ⟨pre, label, post⟩, after, heq, ?_⟩
    cases FeedEffect.of_ok hstep with
    | same _ hnone _ => exact absurd hlabel (hnone asset)
    | added _ _ _ => exact absurd hlabel id
    | set _ _ _ => exact absurd hlabel id
    | removed caller removed h =>
      have heq : removed = asset := hlabel
      rw [hpost, ← heq, h.nftPriceData_eq] at hdata
      exact absurd rfl hdata
    | priced caller priced reported h =>
      have heq : priced = asset := hlabel
      subst heq
      refine ⟨⟨caller, reported, rfl⟩, hafter, hpost.symm, ?_⟩
      rw [hfile]
      exact h.calculateTwapPrice_eq

theorem getAssetPrice_eq (hkey : o.isExistedKey asset = true) (hfile : o.nftPriceData asset ≠ [] →
    0 < o.twapPriceMap asset) :
    o.getAssetPrice asset =
      if o.nftPriceData asset = [] then .error (.message "NFTOracle: no price data")
      else .ok (o.twapPriceMap asset) := by
  unfold getAssetPrice getPriceFeedLength
  rw [require_of hkey, ok_bind]
  by_cases hdata : o.nftPriceData asset = []
  · rw [if_pos hdata, hdata]
    rfl
  · have hlength := List.length_pos_iff.mpr hdata
    simp only [if_neg hdata, require_of hlength, ok_bind, if_neg (hfile hdata).ne']
    rfl

def answer (o : NFTOracle) (asset : Address) : Except String Nat :=
  match o.getAssetPrice asset with
  | .ok price => .ok price
  | .error (.message text) => .error text
  | .error _ => .error ""

theorem avoids_getAssetPrice {bad : Revert → Prop} (hmessage : ∀ text, ¬bad (.message text)) :
    Avoids bad (o.getAssetPrice asset) := by
  unfold getAssetPrice
  refine (avoids_require fun _ => hmessage _).bind fun _ _ => ?_
  refine (avoids_require fun _ => hmessage _).bind fun _ hlength => ?_
  apply avoids_ite
  · intro _
    have hlast : o.getPriceFeedLength asset - 1 < (o.nftPriceData asset).length :=
      Nat.sub_lt (require_eq_ok.mp hlength) Nat.one_pos
    rw [priceRecord_eq (List.getElem?_eq_getElem hlast), ok_bind]
    exact avoids_pure _
  · exact fun _ => avoids_pure _

theorem getNFTPrice_of_answer {s s' : State}
    (h : (WorldEvent.nftPrice asset (o.answer asset)).run s = .ok s') :
    s'.getNFTPrice asset = o.getAssetPrice asset := by
  have hanswer : s'.nftOracle asset = o.answer asset := by
    rw [← pure_eq_ok.mp h]
    exact Function.update_self _ _ _
  have hmessage : ∀ e, o.getAssetPrice asset = .error e → ∃ text, e = .message text := by
    let textless : Revert → Prop := fun e => ¬∃ text, e = .message text
    have havoids : Avoids textless (o.getAssetPrice asset) :=
      avoids_getAssetPrice fun text hno => hno ⟨text, rfl⟩
    intro e herror
    exact not_not.mp (havoids e herror)
  unfold State.getNFTPrice
  rw [hanswer]
  unfold answer
  cases hprice : o.getAssetPrice asset with
  | ok price => rfl
  | error e =>
    obtain ⟨text, rfl⟩ := hmessage e hprice
    rfl

end NFTOracle

open NFTOracle

/-- After any run the records of a registered asset are in order. The average is computed
unless its sum overflows, and it is the time-weighted average of the prices in force over the
window. The price answered is that average as of the last report, which no removal followed. -/
theorem twap_prices_exact {o₀ o : NFTOracle} {history : List (Transition NFTOracle NFTOracleStep)}
    (hdeployed : o₀.Deployed) (hrun : Run nftOracles o₀ history o) {asset : Address}
    (hregistered : o.isExistedKey asset = true) :
    PriceHistory (o.nftPriceData asset) o.timestamp ∧
    (o.nftPriceData asset ≠ [] → 0 < o.twapInterval → o.twapInterval ≤ o.timestamp →
      ∫ time in (o.windowOpens asset : ℝ)..o.timestamp,
        (priceInForce (o.nftPriceData asset) time : ℝ) ≤ Uint256.max →
      ∃ price, o.calculateTwapPrice asset = .ok price) ∧
    (∀ price, o.calculateTwapPrice asset = .ok price →
      IsTwap (o.nftPriceData asset) (o.windowOpens asset) o.timestamp price) ∧
    (o.nftPriceData asset = [] →
      o.getAssetPrice asset = .error (.message "NFTOracle: no price data")) ∧
    (o.nftPriceData asset ≠ [] → ∃ price before update after,
      o.getAssetPrice asset = .ok price ∧ 0 < price ∧ history = before ++ update :: after ∧
        (∃ caller reported, update.label = .call caller (.setAssetData asset reported)) ∧
        (∀ later ∈ after, ¬later.label.Concerns asset) ∧
        update.post.nftPriceData asset = o.nftPriceData asset ∧
        update.post.calculateTwapPrice asset = .ok price ∧
        IsTwap (update.post.nftPriceData asset) (update.post.windowOpens asset)
          update.post.timestamp price) := by
  have hfeeds := nftOracles_feedsValid (hrun.reachable (.initial hdeployed))
  have hrecorded := hfeeds.recorded asset
  have hlast : o.nftPriceData asset ≠ [] → ∃ before update after,
      history = before ++ update :: after ∧
        (∃ caller reported, update.label = .call caller (.setAssetData asset reported)) ∧
        (∀ later ∈ after, ¬later.label.Concerns asset) ∧
        update.post.nftPriceData asset = o.nftPriceData asset ∧
        update.post.calculateTwapPrice asset = .ok (o.twapPriceMap asset) ∧
        PriceHistory (update.post.nftPriceData asset) update.post.timestamp := by
    intro hdata
    obtain ⟨before, update, after, heq, hlabel, hafter, hsame, htwap⟩ :=
      exists_last_report hdeployed hrun hdata
    have hmem : update ∈ history := by
      rw [heq]
      exact List.mem_append_right _ List.mem_cons_self
    obtain ⟨hpre, hstep⟩ := hrun.transition_reachable (.initial hdeployed) update hmem
    have hpost := (nftOracles_feedsValid (.step hpre hstep)).recorded asset
    exact ⟨before, update, after, heq, hlabel, hafter, hsame, htwap, hpost⟩
  have hfile : o.nftPriceData asset ≠ [] → 0 < o.twapPriceMap asset := by
    intro hdata
    obtain ⟨_, update, _, _, _, _, _, htwap, hpost⟩ := hlast hdata
    exact twap_pos hpost htwap
  refine ⟨hrecorded, ?_, fun price => isTwap_of_ok hrecorded, ?_, ?_⟩
  · intro hdata hinterval hle hfits
    exact calculateTwapPrice_returns hrecorded hregistered hinterval hle hdata hfits
  · intro hnone
    rw [getAssetPrice_eq hregistered hfile, if_pos hnone]
  · intro hdata
    obtain ⟨before, update, after, heq, hlabel, hafter, hsame, htwap, hpost⟩ := hlast hdata
    refine ⟨_, before, update, after, ?_, hfile hdata, heq, hlabel, hafter, hsame, htwap, ?_⟩
    · rw [getAssetPrice_eq hregistered hfile, if_neg hdata]
    · exact isTwap_of_ok hpost htwap

/-- Three prices, each in force for a third of the window. -/
theorem twap_prices_exact_thirds :
    let o := replayed nftOracles sampleNFTOracle
      [.call (.account 0) (.addAsset (.account 7)),
        .call (.account 1) (.setAssetData (.account 7) 400), .tick 15,
        .call (.account 1) (.setAssetData (.account 7) 405), .tick 15,
        .call (.account 1) (.setAssetData (.account 7) 410), .tick 15]
    o.getAssetPrice (.account 7) = .ok 402 ∧ o.calculateTwapPrice (.account 7) = .ok 405 ∧
      IsTwap (o.nftPriceData (.account 7)) (o.windowOpens (.account 7)) o.timestamp 405 := by
  intro o
  have hrun : Run nftOracles sampleNFTOracle _ o := trace_run _ _
  have hregistered : o.isExistedKey (.account 7) = true := by decide +kernel
  have hprice : o.getAssetPrice (.account 7) = .ok 402 :=
    eq_ok_of_passes (show passes _ _ = true by decide +kernel)
  have htwap : o.calculateTwapPrice (.account 7) = .ok 405 :=
    eq_ok_of_passes (show passes _ _ = true by decide +kernel)
  have hexact := twap_prices_exact ⟨rfl, rfl, rfl, rfl⟩ hrun hregistered
  exact ⟨hprice, htwap, hexact.2.2.1 405 htwap⟩

end Confetti
