import Confetti.Oracle.PriceHistory

/-! What holds of the price feeds of the oracle, whatever is called. -/
namespace Confetti
open Outcome TransitionSystem

/-- The list of keys is the set of registered assets, and only those have records. -/
structure FeedsValid (o : NFTOracle) : Prop where
  keys : KeyList.Exact o.nftPriceFeedKeys fun asset => o.isExistedKey asset = true
  unregistered : ∀ asset, o.isExistedKey asset = false → o.nftPriceData asset = []
  recorded : ∀ asset, PriceHistory (o.nftPriceData asset) o.timestamp

/-- The step reports a price for the asset, or ends its registration. -/
def NFTOracleStep.Concerns (asset : Address) : NFTOracleStep → Prop
  | .call _ (.setAssetData nftContract _) => nftContract = asset
  | .call _ (.removeAsset nftContract) => nftContract = asset
  | _ => False

namespace PriceHistory

variable {data : List NFTPriceData} {now now' price : Nat}

theorem nil : PriceHistory [] now := ⟨.nil, nofun, nofun, nofun⟩

theorem mono (h : PriceHistory data now) (hle : now ≤ now') : PriceHistory data now' :=
  ⟨h.increasing, fun record hrecord => (h.started record hrecord).trans hle, h.positive,
    h.position⟩

theorem push (h : PriceHistory data now) (hlater : ∀ record ∈ data, record.timestamp < now)
    (hprice : 0 < price) : PriceHistory (data ++ [⟨data.length, price, now⟩]) now := by
  refine ⟨?_, ?_, ?_, ?_⟩
  · rw [List.pairwise_append]
    refine ⟨h.increasing, List.pairwise_singleton _ _, fun record hrecord other hother => ?_⟩
    rw [List.mem_singleton.mp hother]
    exact hlater record hrecord
  · intro record hrecord
    rcases List.mem_append.mp hrecord with hold | hnew
    · exact h.started record hold
    · rw [List.mem_singleton.mp hnew]
  · intro record hrecord
    rcases List.mem_append.mp hrecord with hold | hnew
    · exact h.positive record hold
    · rw [List.mem_singleton.mp hnew]
      exact hprice
  · intro i record hrecord
    rw [List.getElem?_append] at hrecord
    split at hrecord
    · exact h.position i record hrecord
    · obtain ⟨hi, rfl⟩ := List.getElem?_eq_some_iff.mp hrecord
      rw [List.length_singleton] at hi
      have hzero : i - data.length = 0 := Nat.lt_one_iff.mp hi
      simp only [hzero, List.getElem_cons_zero]
      omega

end PriceHistory

namespace NFTOracle

variable {o o' : NFTOracle} {caller asset other : Address} {price : Nat} {feed : NFTPriceFeed}

@[simp] theorem setFeed_nftPriceFeedMap : (o.setFeed asset feed).nftPriceFeedMap =
    Function.update o.nftPriceFeedMap asset feed := rfl

/-! ### What each call does -/

theorem requireKeyExisted_eq_ok {existed : Bool} {u : Unit} :
    o.requireKeyExisted asset existed = .ok u ↔ o.isExistedKey asset = existed := by
  cases existed <;> simp [requireKeyExisted]

/-- An asset that was not registered is registered, and its key is pushed. -/
structure Added (o : NFTOracle) (asset : Address) (o' : NFTOracle) : Prop where
  absent : o.isExistedKey asset = false
  result : o' = { o.setFeed asset { o.nftPriceFeedMap asset with registered := true } with
    nftPriceFeedKeys := o.nftPriceFeedKeys ++ [asset] }

theorem Added.of_ok (h : o._addAsset asset = .ok o') : Added o asset o' := by
  unfold _addAsset at h
  obtain ⟨_, hkey, h⟩ := bind_eq_ok.mp h
  exact ⟨requireKeyExisted_eq_ok.mp hkey, (pure_eq_ok.mp h).symm⟩

/-- A registered asset loses its feed and its key. -/
structure Removed (o : NFTOracle) (asset : Address) (o' : NFTOracle) : Prop where
  present : o.isExistedKey asset = true
  result : o' = { o.setFeed asset .empty with
    nftPriceFeedKeys := KeyList.remove o.nftPriceFeedKeys asset }

theorem Removed.of_ok (h : o.removeAsset caller asset = .ok o') : Removed o asset o' := by
  unfold removeAsset at h
  obtain ⟨_, -, h⟩ := bind_eq_ok.mp h
  obtain ⟨_, hkey, h⟩ := bind_eq_ok.mp h
  exact ⟨requireKeyExisted_eq_ok.mp hkey, (pure_eq_ok.mp h).symm⟩

/-- A registered asset gets a record of this block, and its average is computed with it. -/
structure Priced (o : NFTOracle) (asset : Address) (price : Nat) (o' : NFTOracle) : Prop where
  present : o.isExistedKey asset = true
  price_pos : 0 < price
  latest : ∀ timestamp, o.getLatestTimestamp asset = .ok timestamp → timestamp < o.timestamp
  result : ∃ twapPrice, o'.calculateTwapPrice asset = .ok twapPrice ∧
    o' = { o.setFeed asset { o.nftPriceFeedMap asset with nftPriceData := o.nftPriceData asset ++
        [⟨(o.nftPriceData asset).length, price, o.timestamp⟩] } with
      twapPriceMap := Function.update o.twapPriceMap asset twapPrice }

theorem Priced.of_ok (h : o.setAssetData caller asset price = .ok o') :
    Priced o asset price o' := by
  unfold setAssetData at h
  obtain ⟨_, -, h⟩ := bind_eq_ok.mp h
  obtain ⟨_, -, h⟩ := bind_eq_ok.mp h
  obtain ⟨_, hkey, h⟩ := bind_eq_ok.mp h
  obtain ⟨latestTimestamp, hlatest, h⟩ := bind_eq_ok.mp h
  obtain ⟨_, hlater, h⟩ := bind_eq_ok.mp h
  obtain ⟨_, hprice, h⟩ := bind_eq_ok.mp h
  obtain ⟨_, -, h⟩ := bind_eq_ok.mp h
  obtain ⟨_, -, h⟩ := bind_eq_ok.mp h
  obtain ⟨twapPrice, htwap, h⟩ := bind_eq_ok.mp h
  have hresult := (pure_eq_ok.mp h).symm
  refine ⟨requireKeyExisted_eq_ok.mp hkey, require_eq_ok.mp hprice, ?_, twapPrice, ?_, hresult⟩
  · intro timestamp htimestamp
    cases hlatest.symm.trans htimestamp
    exact require_eq_ok.mp hlater
  · -- the average reads the feeds and the window only
    rw [hresult]
    exact htwap

theorem Priced.later (h : Priced o asset price o') (hfeeds : FeedsValid o) :
    ∀ record ∈ o.nftPriceData asset, record.timestamp < o.timestamp := by
  intro record hrecord
  rcases List.eq_nil_or_concat (o.nftPriceData asset) with hnil | ⟨older, last, hdata⟩
  · rw [hnil] at hrecord
    cases hrecord
  · rw [List.concat_eq_append] at hdata
    have hlength : o.getPriceFeedLength asset = older.length + 1 := by
      unfold getPriceFeedLength
      rw [hdata, List.length_append, List.length_singleton]
    have hlast : (older ++ [last])[older.length]? = some last := by simp
    have hlatest : o.getLatestTimestamp asset = .ok last.timestamp := by
      unfold getLatestTimestamp
      simp only [require_of h.present, hlength, hdata, Nat.add_sub_cancel, priceRecord_eq hlast,
        ok_bind, if_neg (Nat.succ_ne_zero older.length)]
      rfl
    have hlt := h.latest _ hlatest
    rw [hdata] at hrecord
    rcases List.mem_append.mp hrecord with hold | hnew
    · have hincreasing := (hfeeds.recorded asset).increasing
      rw [hdata] at hincreasing
      have hbefore := (List.pairwise_append.mp hincreasing).2.2
      exact (hbefore record hold last List.mem_cons_self).trans hlt
    · rw [List.mem_singleton.mp hnew]
      exact hlt

/-- The feeds and the averages are as before; time may have passed. -/
structure SameFeeds (o o' : NFTOracle) : Prop where
  nftPriceFeedMap : o'.nftPriceFeedMap = o.nftPriceFeedMap
  nftPriceFeedKeys : o'.nftPriceFeedKeys = o.nftPriceFeedKeys
  twapPriceMap : o'.twapPriceMap = o.twapPriceMap
  timestamp : o.timestamp ≤ o'.timestamp

inductive FeedEffect (o o' : NFTOracle) : NFTOracleStep → Prop
  | same (label : NFTOracleStep) (hlabel : ∀ asset, ¬label.Concerns asset) (h : SameFeeds o o') :
    FeedEffect o o' label
  | added (caller : Address) (asset : Address) (h : Added o asset o') :
    FeedEffect o o' (.call caller (.addAsset asset))
  | set (caller : Address) (assets : List Address) (h : assets.foldlM _addAsset o = .ok o') :
    FeedEffect o o' (.call caller (.setAssets assets))
  | removed (caller : Address) (asset : Address) (h : Removed o asset o') :
    FeedEffect o o' (.call caller (.removeAsset asset))
  | priced (caller : Address) (asset : Address) (price : Nat) (h : Priced o asset price o') :
    FeedEffect o o' (.call caller (.setAssetData asset price))

private theorem SameFeeds.of_pure {result : NFTOracle}
    (h : (pure result : Except Revert NFTOracle) = .ok o') (hsame : SameFeeds o result) :
    SameFeeds o o' := by
  rw [← pure_eq_ok.mp h]
  exact hsame

theorem FeedEffect.of_ok {label : NFTOracleStep} (h : label.run o = .ok o') :
    FeedEffect o o' label := by
  cases label with
  | tick seconds =>
    exact .same _ (fun _ => nofun) (.of_pure h ⟨rfl, rfl, rfl, Nat.le_add_right _ _⟩)
  | call caller action =>
    cases action with
    | removeAsset nftContract => exact .removed caller nftContract (.of_ok h)
    | setAssetData nftContract price => exact .priced caller nftContract price (.of_ok h)
    | setPriceFeedAdmin admin =>
      obtain ⟨_, -, h⟩ := bind_eq_ok.mp h
      exact .same _ (fun _ => nofun) (.of_pure h ⟨rfl, rfl, rfl, le_rfl⟩)
    | setAssets nftContracts =>
      obtain ⟨_, -, h⟩ := bind_eq_ok.mp h
      exact .set caller nftContracts h
    | addAsset nftContract =>
      obtain ⟨_, -, h⟩ := bind_eq_ok.mp h
      exact .added caller nftContract (.of_ok h)
    | setDataValidityParameters _ _ _ _ =>
      obtain ⟨_, -, h⟩ := bind_eq_ok.mp h
      exact .same _ (fun _ => nofun) (.of_pure h ⟨rfl, rfl, rfl, le_rfl⟩)
    | setPause nftContract val =>
      obtain ⟨_, -, h⟩ := bind_eq_ok.mp h
      exact .same _ (fun _ => nofun) (.of_pure h ⟨rfl, rfl, rfl, le_rfl⟩)
    | setTwapInterval twapInterval =>
      obtain ⟨_, -, h⟩ := bind_eq_ok.mp h
      exact .same _ (fun _ => nofun) (.of_pure h ⟨rfl, rfl, rfl, le_rfl⟩)
    | transferOwnership newOwner =>
      obtain ⟨_, -, h⟩ := bind_eq_ok.mp h
      obtain ⟨_, -, h⟩ := bind_eq_ok.mp h
      exact .same _ (fun _ => nofun) (.of_pure h ⟨rfl, rfl, rfl, le_rfl⟩)
    | renounceOwnership =>
      obtain ⟨_, -, h⟩ := bind_eq_ok.mp h
      exact .same _ (fun _ => nofun) (.of_pure h ⟨rfl, rfl, rfl, le_rfl⟩)

/-! ### The feeds stay valid -/

theorem Deployed.feedsValid (h : o.Deployed) : FeedsValid o := by
  have hempty : ∀ asset, o.nftPriceFeedMap asset = .empty := fun asset =>
    congrFun h.nftPriceFeedMap asset
  have hdata : ∀ asset, o.nftPriceData asset = [] := by
    intro asset
    unfold nftPriceData
    rw [hempty]
    rfl
  refine ⟨?_, fun asset _ => hdata asset, fun asset => ?_⟩
  · rw [h.nftPriceFeedKeys]
    apply KeyList.Exact.nil
    intro asset
    unfold isExistedKey
    rw [hempty]
    exact nofun
  · rw [hdata]
    exact .nil

theorem SameFeeds.feedsValid (h : SameFeeds o o') (hfeeds : FeedsValid o) : FeedsValid o' := by
  have hkey : ∀ asset, o'.isExistedKey asset = o.isExistedKey asset := by
    intro asset
    unfold isExistedKey
    rw [h.nftPriceFeedMap]
  have hdata : ∀ asset, o'.nftPriceData asset = o.nftPriceData asset := by
    intro asset
    unfold nftPriceData
    rw [h.nftPriceFeedMap]
  refine ⟨?_, fun asset hasset => ?_, fun asset => ?_⟩
  · rw [h.nftPriceFeedKeys]
    apply hfeeds.keys.congr
    intro asset
    rw [hkey]
  · rw [hkey] at hasset
    rw [hdata, hfeeds.unregistered asset hasset]
  · rw [hdata]
    exact (hfeeds.recorded asset).mono h.timestamp

private theorem setFeed_isExistedKey : (o.setFeed asset feed).isExistedKey other =
    if other = asset then feed.registered else o.isExistedKey other := by
  unfold isExistedKey
  rw [setFeed_nftPriceFeedMap, Function.update_apply]
  split <;> rfl

private theorem setFeed_nftPriceData : (o.setFeed asset feed).nftPriceData other =
    if other = asset then feed.nftPriceData else o.nftPriceData other := by
  unfold nftPriceData
  rw [setFeed_nftPriceFeedMap, Function.update_apply]
  split <;> rfl

private theorem feedsValid_of_setFeed (hfeeds : FeedsValid o)
    (hmap : o'.nftPriceFeedMap = (o.setFeed asset feed).nftPriceFeedMap)
    (htime : o'.timestamp = o.timestamp)
    (hkeys : KeyList.Exact o'.nftPriceFeedKeys fun other =>
      (o.setFeed asset feed).isExistedKey other = true)
    (hempty : feed.registered = false → feed.nftPriceData = [])
    (hrecorded : PriceHistory feed.nftPriceData o.timestamp) : FeedsValid o' := by
  have hkey : ∀ other, o'.isExistedKey other = (o.setFeed asset feed).isExistedKey other := by
    intro other
    unfold isExistedKey
    rw [hmap]
  have hdata : ∀ other, o'.nftPriceData other = (o.setFeed asset feed).nftPriceData other := by
    intro other
    unfold nftPriceData
    rw [hmap]
  refine ⟨?_, fun other hother => ?_, fun other => ?_⟩
  · apply hkeys.congr
    intro other
    rw [hkey]
  · rw [hkey, setFeed_isExistedKey] at hother
    rw [hdata, setFeed_nftPriceData]
    split
    · rw [if_pos ‹_›] at hother
      exact hempty hother
    · rw [if_neg ‹_›] at hother
      exact hfeeds.unregistered other hother
  · rw [hdata, setFeed_nftPriceData, htime]
    split
    · exact hrecorded
    · exact hfeeds.recorded other

theorem Added.feedsValid (h : Added o asset o') (hfeeds : FeedsValid o) : FeedsValid o' := by
  have hdata := hfeeds.unregistered asset h.absent
  have habsent : ¬o.isExistedKey asset = true := by
    rw [h.absent]
    exact nofun
  have hkeys := hfeeds.keys.push habsent
  rw [h.result]
  refine feedsValid_of_setFeed hfeeds rfl rfl (hkeys.congr fun other => ?_) nofun
    (hfeeds.recorded asset)
  rw [setFeed_isExistedKey]
  by_cases hother : other = asset
  · simp [hother]
  · simp [hother]

theorem Removed.feedsValid (h : Removed o asset o') (hfeeds : FeedsValid o) :
    FeedsValid o' := by
  have hkeys := hfeeds.keys.remove asset
  rw [h.result]
  refine feedsValid_of_setFeed hfeeds rfl rfl (hkeys.congr fun other => ?_) (fun _ => rfl) .nil
  rw [setFeed_isExistedKey]
  by_cases hother : other = asset
  · simp [hother, NFTPriceFeed.empty]
  · simp [hother]

theorem Priced.feedsValid (h : Priced o asset price o') (hfeeds : FeedsValid o) :
    FeedsValid o' := by
  have hrecorded := (hfeeds.recorded asset).push (h.later hfeeds) h.price_pos
  obtain ⟨twapPrice, -, hresult⟩ := h.result
  rw [hresult]
  refine feedsValid_of_setFeed hfeeds rfl rfl (hfeeds.keys.congr fun other => ?_)
    (fun hfalse => ?_) hrecorded
  · rw [setFeed_isExistedKey]
    by_cases hother : other = asset
    · rw [if_pos hother, hother]
      rfl
    · rw [if_neg hother]
  · have hpresent := h.present
    unfold isExistedKey at hpresent
    rw [hpresent] at hfalse
    cases hfalse

theorem FeedEffect.feedsValid {label : NFTOracleStep} (h : FeedEffect o o' label)
    (hfeeds : FeedsValid o) : FeedsValid o' := by
  cases h with
  | same label hlabel h => exact h.feedsValid hfeeds
  | added caller asset h => exact h.feedsValid hfeeds
  | set caller assets h =>
    apply foldlM_preserves assets _ o o' hfeeds h
    intro m asset m' _ hm hstep
    exact (Added.of_ok hstep).feedsValid hm
  | removed caller asset h => exact h.feedsValid hfeeds
  | priced caller asset price h => exact h.feedsValid hfeeds

/-! ### What stays of a report -/

/-- The records of an asset and the average that was computed with the last of them. -/
def report (asset : Address) (o : NFTOracle) : List NFTPriceData × Nat :=
  (o.nftPriceData asset, o.twapPriceMap asset)

private theorem report_of_setFeed
    (hmap : o'.nftPriceFeedMap = (o.setFeed asset feed).nftPriceFeedMap)
    (htwap : o'.twapPriceMap other = o.twapPriceMap other)
    (hdata : other = asset → feed.nftPriceData = o.nftPriceData asset) :
    report other o' = report other o := by
  have hsame : (o.setFeed asset feed).nftPriceData other = o.nftPriceData other := by
    rw [setFeed_nftPriceData]
    split
    · rw [hdata ‹_›, ‹other = asset›]
    · rfl
  have hdata' : o'.nftPriceData other = (o.setFeed asset feed).nftPriceData other := by
    unfold nftPriceData
    rw [hmap]
  unfold report
  rw [htwap, hdata', hsame]

/-- Steps that do not concern an asset leave its report alone. -/
theorem FeedEffect.report_eq {label : NFTOracleStep} (h : FeedEffect o o' label)
    (hlabel : ¬label.Concerns other) : report other o' = report other o := by
  have hadded : ∀ m asset m', Added m asset m' → report other m' = report other m := by
    intro m asset m' hadded
    rw [hadded.result]
    exact report_of_setFeed rfl rfl fun _ => rfl
  cases h with
  | same label _ h =>
    unfold report nftPriceData
    rw [h.nftPriceFeedMap, h.twapPriceMap]
  | added caller asset h => exact hadded o asset o' h
  | set caller assets h =>
    let unchanged : NFTOracle → Prop := fun m => report other m = report other o
    have hbody : ∀ m asset m', asset ∈ assets → unchanged m → m._addAsset asset = .ok m' →
        unchanged m' := by
      intro m asset m' _ hm hstep
      exact (hadded m asset m' (Added.of_ok hstep)).trans hm
    exact foldlM_preserves assets hbody o o' rfl h
  | removed caller asset h =>
    have hother : other ≠ asset := Ne.symm hlabel
    rw [h.result]
    exact report_of_setFeed rfl rfl fun heq => absurd heq hother
  | priced caller asset price h =>
    obtain ⟨twapPrice, -, hresult⟩ := h.result
    have hother : other ≠ asset := Ne.symm hlabel
    rw [hresult]
    exact report_of_setFeed rfl (Function.update_of_ne hother _ _) fun heq => absurd heq hother

theorem Removed.nftPriceData_eq (h : Removed o asset o') : o'.nftPriceData asset = [] := by
  rw [h.result]
  exact setFeed_nftPriceData.trans (if_pos rfl)

theorem Priced.calculateTwapPrice_eq (h : Priced o asset price o') :
    o'.calculateTwapPrice asset = .ok (o'.twapPriceMap asset) := by
  obtain ⟨twapPrice, htwap, hresult⟩ := h.result
  rw [htwap, hresult]
  simp

end NFTOracle

theorem nftOracles_feedsValid {o : NFTOracle} (h : Reachable nftOracles o) : FeedsValid o := by
  apply h.invariant
  · exact fun o hdeployed => NFTOracle.Deployed.feedsValid hdeployed
  · intro o label o' _ hfeeds hstep
    exact (NFTOracle.FeedEffect.of_ok hstep).feedsValid hfeeds

end Confetti
