import Confetti.Library.StepFunction
import Confetti.Oracle.NFTOracle

/-! What the loop of `calculateTwapPrice` adds up: the prices in force, each as long as it
was in force in the window. -/
namespace Confetti
open Outcome

/-- The records of an asset as a call at a time finds them. -/
structure PriceHistory (data : List NFTPriceData) (now : Nat) : Prop where
  increasing : data.Pairwise fun earlier later => earlier.timestamp < later.timestamp
  started : ∀ record ∈ data, record.timestamp ≤ now
  positive : ∀ record ∈ data, 0 < record.price
  position : ∀ (i : Nat) (record : NFTPriceData), data[i]? = some record → record.roundId = i

noncomputable def priceInForce (data : List NFTPriceData) (time : ℝ) : Nat :=
  StepFunction.valueAt (fun record => (record.timestamp : ℝ)) NFTPriceData.price data.reverse time

/-- The prices of the units of time between two blocks, added up. -/
def weightedTotal (data : List NFTPriceData) (a b : Nat) : Nat :=
  StepFunction.total NFTPriceData.timestamp NFTPriceData.price data.reverse a b

theorem integral_priceInForce (data : List NFTPriceData) {a b : Nat} (hab : a ≤ b) :
    ∫ time in (a : ℝ)..b, (priceInForce data time : ℝ) = weightedTotal data a b :=
  StepFunction.integral_valueAt _ _ data.reverse hab

theorem priceInForce_cast (data : List NFTPriceData) (t : Nat) :
    priceInForce data t =
      StepFunction.valueAt NFTPriceData.timestamp NFTPriceData.price data.reverse t := by
  unfold priceInForce
  rw [StepFunction.valueAt_cast NFTPriceData.timestamp _ _ t.cast_nonneg, Nat.floor_natCast]

section Totals

variable {data : List NFTPriceData} {record : NFTPriceData} {a b : Nat}

theorem weightedTotal_concat (ha : a ≤ record.timestamp) (hb : record.timestamp ≤ b) :
    weightedTotal (data ++ [record]) a b =
      record.price * (b - record.timestamp) + weightedTotal data a record.timestamp := by
  unfold weightedTotal
  rw [List.reverse_concat]
  exact StepFunction.total_cons ha hb

theorem weightedTotal_concat_of_le (h : record.timestamp ≤ a) :
    weightedTotal (data ++ [record]) a b = record.price * (b - a) := by
  unfold weightedTotal
  rw [List.reverse_concat]
  exact StepFunction.total_cons_of_le h

theorem weightedTotal_self : weightedTotal data a a = 0 := StepFunction.total_self

theorem priceInForce_concat_of_le {time : Nat} (h : record.timestamp ≤ time) :
    priceInForce (data ++ [record]) time = record.price := by
  rw [priceInForce_cast, List.reverse_concat]
  exact StepFunction.valueAt_cons_of_le h

theorem priceInForce_pos {now : Nat} {time : ℝ} (hdata : PriceHistory data now)
    (h : ∃ record ∈ data, (record.timestamp : ℝ) ≤ time) : 0 < priceInForce data time := by
  have hstarted : ∃ record ∈ data.reverse, (record.timestamp : ℝ) ≤ time := by
    obtain ⟨record, hrecord, hle⟩ := h
    exact ⟨record, List.mem_reverse.mpr hrecord, hle⟩
  have hfound : ∃ record ∈ data.reverse, (record.timestamp : ℝ) ≤ time ∧
      priceInForce data time = record.price := StepFunction.exists_valueAt hstarted
  obtain ⟨record, hrecord, -, hvalue⟩ := hfound
  rw [hvalue]
  exact hdata.positive record (List.mem_reverse.mp hrecord)

end Totals

namespace NFTOracle

variable {data : List NFTPriceData} {first record : NFTPriceData}
  {base now round cumulative previous weighted : Nat}

theorem priceRecord_eq (h : data[round]? = some record) :
    priceRecord data round = .ok record := by
  unfold priceRecord
  rw [h]

/-- The window ends now; it starts at the base, or at the first record after it. -/
def windowStart (base : Nat) (first : NFTPriceData) : Nat := max base first.timestamp

/-- What the loop has done when it comes to a round: the time from `previous` to now is
summed, and `previous` lies in the window. -/
structure Summed (data : List NFTPriceData) (first : NFTPriceData)
    (base now round cumulative previous weighted : Nat) : Prop where
  time : cumulative + previous = now
  base_le : base ≤ previous
  later : ∀ record ∈ data.take round, record.timestamp < previous
  exhausted : round = 0 → previous = first.timestamp ∧ previous < now
  covered : cumulative ≤ weighted
  fits : weighted ≤ Uint256.max

private theorem take_concat (hrecord : data[round]? = some record) :
    data.take (round + 1) = data.take round ++ [record] := by
  rw [List.take_add_one, hrecord]
  rfl

private theorem first_le (hdata : PriceHistory data now) (hfirst : data[0]? = some first)
    (hrecord : data[round]? = some record) : first.timestamp ≤ record.timestamp := by
  obtain ⟨h0, hget0⟩ := List.getElem?_eq_some_iff.mp hfirst
  obtain ⟨hr, hgetr⟩ := List.getElem?_eq_some_iff.mp hrecord
  rcases Nat.eq_zero_or_pos round with hzero | hpos
  · subst hzero
    rw [← hget0, ← hgetr]
  · rw [← hget0, ← hgetr]
    exact (List.pairwise_iff_getElem.mp hdata.increasing 0 round h0 hr hpos).le

private theorem Summed.step (hdata : PriceHistory data now) (hfirst : data[0]? = some first)
    (hrecord : data[round]? = some record)
    (h : Summed data first base now (round + 1) cumulative previous weighted)
    (hbase : base < record.timestamp)
    (hfits : weighted + record.price * (previous - record.timestamp) ≤ Uint256.max) :
    Summed data first base now round (cumulative + (previous - record.timestamp))
      record.timestamp (weighted + record.price * (previous - record.timestamp)) := by
  have hmem : record ∈ data := List.mem_of_getElem? hrecord
  have hprevious : record.timestamp < previous := by
    apply h.later
    rw [take_concat hrecord]
    exact List.mem_append_right _ List.mem_cons_self
  have hle := h.time
  refine ⟨by omega, hbase.le, fun other hother => ?_, fun hzero => ?_, ?_, hfits⟩
  · obtain ⟨hr, hgetr⟩ := List.getElem?_eq_some_iff.mp hrecord
    obtain ⟨i, hi, hgeti⟩ := List.mem_take_iff_getElem.mp hother
    have hlt : i < round := by omega
    rw [← hgeti, ← hgetr]
    exact List.pairwise_iff_getElem.mp hdata.increasing i round _ hr hlt
  · subst hzero
    have heq : first = record := Option.some.inj (hfirst.symm.trans hrecord)
    rw [heq]
    exact ⟨rfl, by omega⟩
  · have hprice := hdata.positive record hmem
    exact Nat.add_le_add h.covered (Nat.le_mul_of_pos_left _ hprice)

private theorem addWeighted_eq_ok {price time r : Nat} {rest : Nat → Except Revert Nat} :
    (do
      let weightedTime ← Uint256.mul price time
      let weightedPrice ← Uint256.add weighted weightedTime
      rest weightedPrice) = .ok r ↔
      weighted + price * time ≤ Uint256.max ∧ rest (weighted + price * time) = .ok r := by
  simp only [bind_eq_ok, Uint256.mul_eq_ok, Uint256.add_eq_ok]
  constructor
  · rintro ⟨_, ⟨-, rfl⟩, _, ⟨hfits, rfl⟩, hrest⟩
    exact ⟨hfits, hrest⟩
  · rintro ⟨hfits, hrest⟩
    have hmul : price * time ≤ Uint256.max := (Nat.le_add_left _ _).trans hfits
    exact ⟨_, ⟨hmul, rfl⟩, _, ⟨hfits, rfl⟩, hrest⟩

/-- The loop divides the prices of the whole window by its length, unless their sum does not
fit in a word. -/
theorem twapLoop_eq_ok {twapInterval r : Nat} (hdata : PriceHistory data now)
    (hfirst : data[0]? = some first) (hbase : base + twapInterval = now)
    (hinterval : 0 < twapInterval) (hround : round ≤ data.length)
    (h : Summed data first base now round cumulative previous weighted) :
    twapLoop data twapInterval base round cumulative previous weighted = .ok r ↔
      weighted + weightedTotal (data.take round) (windowStart base first) previous
          ≤ Uint256.max ∧
        r = (weighted + weightedTotal (data.take round) (windowStart base first) previous) /
          (now - windowStart base first) := by
  induction round generalizing cumulative previous weighted with
  | zero =>
    obtain ⟨hprevious, hlt⟩ := h.exhausted rfl
    have hstart : windowStart base first = previous := by
      unfold windowStart
      rw [← hprevious]
      exact Nat.max_eq_right h.base_le
    have hcumulative : cumulative = now - previous := by
      have htime := h.time
      omega
    have hne : now - previous ≠ 0 := by omega
    rw [hstart, weightedTotal_self, Nat.add_zero]
    simp only [twapLoop, Uint256.div, hcumulative, if_pos hne, Except.ok.injEq]
    constructor
    · intro heq
      exact ⟨h.fits, heq.symm⟩
    · intro heq
      exact heq.2.symm
  | succ round ih =>
    obtain ⟨record, hrecord⟩ : ∃ record, data[round]? = some record :=
      ⟨data[round], List.getElem?_eq_getElem hround⟩
    have hle := first_le hdata hfirst hrecord
    have hprevious : record.timestamp < previous := by
      apply h.later
      rw [take_concat hrecord]
      exact List.mem_append_right _ List.mem_cons_self
    simp only [twapLoop, priceRecord_eq hrecord, ok_bind]
    rw [take_concat hrecord]
    by_cases hcurrent : record.timestamp ≤ base
    · -- the record was in force when the window started
      have hstart : windowStart base first = base := Nat.max_eq_left (hle.trans hcurrent)
      have hlength : now - base = twapInterval := by omega
      have hsub : Uint256.sub previous base = .ok (previous - base) := if_pos h.base_le
      rw [if_pos hcurrent, hstart, weightedTotal_concat_of_le hcurrent, hlength, hsub, ok_bind,
        addWeighted_eq_ok]
      simp only [Uint256.div, if_pos hinterval.ne', Except.ok.injEq]
      exact and_congr_right fun _ => eq_comm
    · -- the record starts in the window
      have hinside : base < record.timestamp := Nat.lt_of_not_le hcurrent
      have hstart : windowStart base first ≤ record.timestamp := Nat.max_le.mpr ⟨hinside.le, hle⟩
      have hsub : Uint256.sub previous record.timestamp = .ok (previous - record.timestamp) :=
        if_pos hprevious.le
      rw [if_neg hcurrent, weightedTotal_concat hstart hprevious.le, hsub, ok_bind,
        addWeighted_eq_ok, ← Nat.add_assoc]
      have hrest (hfits : weighted + record.price * (previous - record.timestamp) ≤ Uint256.max) :
          Uint256.add cumulative (previous - record.timestamp) =
              .ok (cumulative + (previous - record.timestamp)) ∧
            Summed data first base now round (cumulative + (previous - record.timestamp))
              record.timestamp
              (weighted + record.price * (previous - record.timestamp)) := by
        have hsummed := h.step hdata hfirst hrecord hinside hfits
        exact ⟨Uint256.add_eq_ok.mpr ⟨hsummed.covered.trans hfits, rfl⟩, hsummed⟩
      constructor
      · intro ⟨hfits, hloop⟩
        obtain ⟨hadd, hsummed⟩ := hrest hfits
        rw [hadd, ok_bind] at hloop
        exact (ih (Nat.le_of_succ_le hround) hsummed).mp hloop
      · intro ⟨htotal, hr⟩
        have hfits := (Nat.le_add_right _ _).trans htotal
        obtain ⟨hadd, hsummed⟩ := hrest hfits
        refine ⟨hfits, ?_⟩
        rw [hadd, ok_bind]
        exact (ih (Nat.le_of_succ_le hround) hsummed).mpr ⟨htotal, hr⟩

/-! ### The whole computation -/

section Twap

variable {o : NFTOracle} {asset : Address} {last : NFTPriceData} {older : List NFTPriceData}

def twapStart (o : NFTOracle) (first : NFTPriceData) : Nat :=
  windowStart (o.timestamp - o.twapInterval) first

private theorem calculateTwapPrice_eq (hkey : o.isExistedKey asset = true)
    (hinterval : 0 < o.twapInterval) (hle : o.twapInterval ≤ o.timestamp)
    (hdata : o.nftPriceData asset = older ++ [last]) :
    o.calculateTwapPrice asset =
      if last.timestamp < o.timestamp - o.twapInterval ∨ older.length = 0 then .ok last.price
      else (do
        let cumulativeTime ← Uint256.sub o.timestamp last.timestamp
        let weightedPrice ← Uint256.mul last.price cumulativeTime
        twapLoop (older ++ [last]) o.twapInterval (o.timestamp - o.twapInterval) older.length
          cumulativeTime last.timestamp weightedPrice) := by
  have hlength : o.getPriceFeedLength asset = older.length + 1 := by
    unfold getPriceFeedLength
    rw [hdata, List.length_append, List.length_singleton]
  have hlast : (older ++ [last])[older.length]? = some last := by simp
  have hbase : Uint256.sub o.timestamp o.twapInterval = .ok (o.timestamp - o.twapInterval) :=
    if_pos hle
  unfold calculateTwapPrice
  simp only [require_of hkey, require_of hinterval.ne', hlength, hdata,
    require_of (Nat.succ_pos older.length), Nat.add_sub_cancel, priceRecord_eq hlast, hbase,
    ok_bind]
  rfl

private theorem last_le_twapStart (hfirst : (older ++ [last])[0]? = some first)
    (h : last.timestamp < o.timestamp - o.twapInterval ∨ older.length = 0) :
    last.timestamp ≤ o.twapStart first := by
  unfold twapStart windowStart
  rcases h with hbefore | hempty
  · exact hbefore.le.trans (Nat.le_max_left _ _)
  · have hnil : older = [] := List.eq_nil_of_length_eq_zero hempty
    rw [hnil] at hfirst
    rw [Option.some.inj hfirst]
    exact Nat.le_max_right _ _

private theorem calculateTwapPrice_eq_ok (hkey : o.isExistedKey asset = true)
    (hinterval : 0 < o.twapInterval) (hle : o.twapInterval ≤ o.timestamp)
    (hdata : o.nftPriceData asset = older ++ [last])
    (hrecorded : PriceHistory (older ++ [last]) o.timestamp)
    (hfirst : (older ++ [last])[0]? = some first)
    (hlate : ¬(last.timestamp < o.timestamp - o.twapInterval ∨ older.length = 0)) (price : Nat) :
    (o.twapStart first ≤ last.timestamp ∧ o.twapStart first < o.timestamp) ∧
      (o.calculateTwapPrice asset = .ok price ↔
        weightedTotal (older ++ [last]) (o.twapStart first) o.timestamp ≤ Uint256.max ∧
          price = weightedTotal (older ++ [last]) (o.twapStart first) o.timestamp /
            (o.timestamp - o.twapStart first)) := by
  obtain ⟨hbase, hlength⟩ := not_or.mp hlate
  have hlast : last ∈ older ++ [last] := List.mem_append_right _ List.mem_cons_self
  have hnow := hrecorded.started last hlast
  have hlater : ∀ record ∈ older, record.timestamp < last.timestamp := by
    intro record hrecord
    exact (List.pairwise_append.mp hrecorded.increasing).2.2 record hrecord last List.mem_cons_self
  have hfirstlt : first.timestamp < last.timestamp := by
    apply hlater
    rw [List.getElem?_append_left (Nat.pos_of_ne_zero hlength)] at hfirst
    exact List.mem_of_getElem? hfirst
  have hstart : o.twapStart first ≤ last.timestamp :=
    Nat.max_le.mpr ⟨Nat.le_of_not_lt hbase, hfirstlt.le⟩
  have hstartlt : o.twapStart first < o.timestamp := by
    apply Nat.max_lt.mpr
    omega
  refine ⟨⟨hstart, hstartlt⟩, ?_⟩
  have htake : (older ++ [last]).take older.length = older := List.take_left
  have hsummed (hfits : last.price * (o.timestamp - last.timestamp) ≤ Uint256.max) :
      Summed (older ++ [last]) first (o.timestamp - o.twapInterval) o.timestamp older.length
        (o.timestamp - last.timestamp) last.timestamp
        (last.price * (o.timestamp - last.timestamp)) := by
    refine ⟨by omega, Nat.le_of_not_lt hbase, ?_, fun hzero => absurd hzero hlength, ?_, hfits⟩
    · rw [htake]
      exact hlater
    · exact Nat.le_mul_of_pos_left _ (hrecorded.positive last hlast)
  have hround : older.length ≤ (older ++ [last]).length := by simp
  have hloop (hfits : last.price * (o.timestamp - last.timestamp) ≤ Uint256.max) :=
    twapLoop_eq_ok (r := price) hrecorded hfirst (Nat.sub_add_cancel hle) hinterval hround
      (hsummed hfits)
  rw [htake] at hloop
  have hsub : Uint256.sub o.timestamp last.timestamp = .ok (o.timestamp - last.timestamp) :=
    if_pos hnow
  rw [calculateTwapPrice_eq hkey hinterval hle hdata, if_neg hlate, hsub, ok_bind,
    weightedTotal_concat hstart hnow]
  constructor
  · intro h
    obtain ⟨weighted, hmul, hrun⟩ := bind_eq_ok.mp h
    obtain ⟨hfits, rfl⟩ := Uint256.mul_eq_ok.mp hmul
    exact (hloop hfits).mp hrun
  · intro h
    have hfits := (Nat.le_add_right _ _).trans h.1
    exact bind_eq_ok.mpr ⟨_, Uint256.mul_eq_ok.mpr ⟨hfits, rfl⟩, (hloop hfits).mpr h⟩

/-- What `calculateTwapPrice` returns, and when. -/
theorem calculateTwapPrice_spec (hkey : o.isExistedKey asset = true)
    (hinterval : 0 < o.twapInterval) (hle : o.twapInterval ≤ o.timestamp)
    (hdata : o.nftPriceData asset = older ++ [last])
    (hrecorded : PriceHistory (older ++ [last]) o.timestamp)
    (hfirst : (older ++ [last])[0]? = some first) :
    (weightedTotal (older ++ [last]) (o.twapStart first) o.timestamp ≤ Uint256.max →
        ∃ price, o.calculateTwapPrice asset = .ok price) ∧
      ∀ price, o.calculateTwapPrice asset = .ok price →
        (o.twapStart first < o.timestamp →
          price = weightedTotal (older ++ [last]) (o.twapStart first) o.timestamp /
            (o.timestamp - o.twapStart first)) ∧
        (last.timestamp ≤ o.twapStart first → price = last.price) := by
  by_cases hlate : last.timestamp < o.timestamp - o.twapInterval ∨ older.length = 0
  · have hreturned : o.calculateTwapPrice asset = .ok last.price := by
      rw [calculateTwapPrice_eq hkey hinterval hle hdata, if_pos hlate]
    have hbefore := last_le_twapStart hfirst hlate
    refine ⟨fun _ => ⟨_, hreturned⟩, fun price hprice => ?_⟩
    cases hreturned.symm.trans hprice
    refine ⟨fun hlt => ?_, fun _ => rfl⟩
    rw [weightedTotal_concat_of_le hbefore, Nat.mul_div_cancel _ (Nat.sub_pos_of_lt hlt)]
  · have hspec := calculateTwapPrice_eq_ok hkey hinterval hle hdata hrecorded hfirst hlate
    obtain ⟨hstart, hlt⟩ := (hspec 0).1
    refine ⟨fun hfits => ⟨_, (hspec _).2.mpr ⟨hfits, rfl⟩⟩, fun price hprice => ?_⟩
    obtain ⟨-, heq⟩ := (hspec price).2.mp hprice
    refine ⟨fun _ => heq, fun hbefore => ?_⟩
    rw [heq, weightedTotal_concat_of_le hbefore, Nat.mul_div_cancel _ (Nat.sub_pos_of_lt hlt)]

end Twap

end NFTOracle

end Confetti
