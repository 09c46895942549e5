import Confetti.Oracle.ReserveTwap
import Confetti.Protocol.Deployment

/-! The reserve oracle's average, whatever feed it reads: an answer counts from when it was
reported until the next one. -/
namespace Confetti
open Outcome

namespace ReserveOracle

noncomputable def answerInForce (decimals : Nat) (records : List RoundData) (time : ℝ) : Nat :=
  StepFunction.valueAt (fun round => (round.updatedAt : ℝ)) (formatted decimals) records time

variable {o : ReserveOracle} {feeds : Address → AggregatorV3Interface}
  {rounds : Address → Nat → Except Revert RoundData} {priceFeedKey : Address}
  {decimals base now interval time price a b : Nat} {latest : RoundData} {records : List RoundData}

theorem integral_answerInForce (hab : a ≤ b) :
    ∫ time in (a : ℝ)..b, (answerInForce decimals records time : ℝ) =
      weightedSum decimals records a b :=
  StepFunction.integral_valueAt RoundData.updatedAt (formatted decimals) records hab

theorem exists_started (base time : Nat) (hrecords : records ≠ []) :
    ∃ round ∈ records, round.updatedAt ≤ opens base time records := by
  induction records generalizing time with
  | nil => exact absurd rfl hrecords
  | cons round older ih =>
    cases older with
    | nil => exact ⟨round, List.mem_cons_self, Nat.le_max_right _ _⟩
    | cons next older =>
      obtain ⟨found, hfound, hle⟩ := ih round.updatedAt (by simp)
      exact ⟨found, List.mem_cons_of_mem round hfound, hle⟩

/-- What is returned is an average over the window, or the latest answer if the window is
empty. -/
structure IsAverage (decimals interval now : Nat) (latest : RoundData) (records : List RoundData)
    (price : Nat) : Prop where
  average : twapStart interval now records < now → price =
    weightedSum decimals records (twapStart interval now records) now /
      (now - twapStart interval now records)
  latest : now ≤ twapStart interval now records → price = formatted decimals latest

theorem Averaged.isAverage (h : Averaged decimals interval now records price) :
    IsAverage decimals interval now latest records price :=
  ⟨fun _ => h.price_eq, fun hempty => absurd h.start_lt (Nat.not_lt.mpr hempty)⟩

theorem isAverage_lone :
    IsAverage decimals interval now latest [latest] (formatted decimals latest) := by
  refine ⟨fun hlt => ?_, fun _ => rfl⟩
  have hstarted : latest.updatedAt ≤ twapStart interval now [latest] := Nat.le_max_right _ _
  have hsum : weightedSum decimals [latest] (twapStart interval now [latest]) now =
      formatted decimals latest * (now - twapStart interval now [latest]) :=
    StepFunction.total_cons_of_le hstarted
  rw [hsum, Nat.mul_div_cancel _ (Nat.sub_pos_of_lt hlt)]

theorem recordsBack_of_lone {getRoundData : Nat → Except Revert RoundData}
    (h : Lone interval now latest) :
    recordsBack getRoundData (now - interval) latest = .ok [latest] := by
  unfold recordsBack
  by_cases hold : latest.updatedAt < now - interval
  · exact if_pos hold
  · have hzero : latest.roundId = 0 := h.resolve_left hold
    rw [if_neg hold, hzero]
    rfl

theorem recordsBack_of_not_lone {getRoundData : Nat → Except Revert RoundData}
    (h : ¬Lone interval now latest) :
    recordsBack getRoundData (now - interval) latest = .ok records ↔
      ∃ older, roundsBack getRoundData (now - interval) latest.roundId = .ok older ∧
        records = latest :: older := by
  unfold recordsBack
  rw [if_neg (not_or.mp h).1, bind_eq_ok]
  exact exists_congr fun older => and_congr_right fun _ => pure_eq_ok.trans eq_comm

theorem recordsBack_ne_nil {getRoundData : Nat → Except Revert RoundData}
    (h : recordsBack getRoundData base latest = .ok records) :
    ∃ older, records = latest :: older := by
  unfold recordsBack at h
  split at h
  · exact ⟨[], (pure_eq_ok.mp h).symm⟩
  · obtain ⟨older, -, hrecords⟩ := bind_eq_ok.mp h
    exact ⟨older, (pure_eq_ok.mp hrecords).symm⟩

/-- Every returned price is such an average of the feed's rounds. -/
theorem isAverage_of_ok (hnow : now ≤ Uint256.max)
    (h : o.getTwapPrice feeds rounds now priceFeedKey interval = .ok price) :
    ∃ latest decimals records, o.Latest feeds priceFeedKey interval now latest decimals ∧
      recordsBack (rounds (o.getAggregator priceFeedKey)) (now - interval) latest = .ok records ∧
        IsAverage decimals interval now latest records price := by
  obtain ⟨latest, decimals, hlatest, h⟩ := (getTwapPrice_eq_ok hnow).mp h
  by_cases hlone : Lone interval now latest
  · rw [if_pos hlone] at h
    rw [h]
    exact ⟨latest, decimals, [latest], hlatest, recordsBack_of_lone hlone, isAverage_lone⟩
  · rw [if_neg hlone] at h
    obtain ⟨older, holder, haveraged⟩ := h
    refine ⟨latest, decimals, latest :: older, hlatest, ?_, haveraged.isAverage⟩
    exact (recordsBack_of_not_lone hlone).mpr ⟨older, holder, rfl⟩

theorem Latest.unique {latest' : RoundData} {decimals' : Nat}
    (h : o.Latest feeds priceFeedKey interval now latest decimals)
    (h' : o.Latest feeds priceFeedKey interval now latest' decimals') :
    latest' = latest ∧ decimals' = decimals :=
  ⟨Except.ok.inj (h'.round.symm.trans h.round),
    Except.ok.inj (h'.decimals_eq.symm.trans h.decimals_eq)⟩

theorem exists_averaged :
    (∃ price, Averaged decimals interval now records price) ↔
      (∀ round ∈ records, Readable decimals round) ∧ Descending now records ∧
        twapStart interval now records < now ∧
        weightedSum decimals records (twapStart interval now records) now ≤ Uint256.max :=
  ⟨fun ⟨_, h⟩ => ⟨h.readable, h.descending, h.start_lt, h.fits⟩,
    fun ⟨hreads, hdescending, hlt, hfits⟩ => ⟨_, hreads, hdescending, hlt, hfits, rfl⟩⟩

theorem getTwapPrice_returns_iff (hnow : now ≤ Uint256.max)
    (hlatest : o.Latest feeds priceFeedKey interval now latest decimals)
    (hrecords : recordsBack (rounds (o.getAggregator priceFeedKey)) (now - interval) latest =
      .ok records) :
    (∃ price, o.getTwapPrice feeds rounds now priceFeedKey interval = .ok price) ↔
      Lone interval now latest ∨ ∃ price, Averaged decimals interval now records price := by
  constructor
  · rintro ⟨price, h⟩
    obtain ⟨latest', decimals', hlatest', h⟩ := (getTwapPrice_eq_ok hnow).mp h
    obtain ⟨rfl, rfl⟩ := hlatest.unique hlatest'
    by_cases hlone : Lone interval now latest'
    · exact .inl hlone
    · rw [if_neg hlone] at h
      obtain ⟨older, holder, haveraged⟩ := h
      have hread := (recordsBack_of_not_lone hlone).mpr ⟨older, holder, rfl⟩
      obtain rfl := Except.ok.inj (hrecords.symm.trans hread)
      exact .inr ⟨price, haveraged⟩
  · intro h
    by_cases hlone : Lone interval now latest
    · refine ⟨formatted decimals latest, (getTwapPrice_eq_ok hnow).mpr ?_⟩
      refine ⟨latest, decimals, hlatest, ?_⟩
      rw [if_pos hlone]
    · obtain ⟨price, haveraged⟩ := h.resolve_left hlone
      obtain ⟨older, holder, rfl⟩ := (recordsBack_of_not_lone hlone).mp hrecords
      refine ⟨price, (getTwapPrice_eq_ok hnow).mpr ⟨latest, decimals, hlatest, ?_⟩⟩
      rw [if_neg hlone]
      exact ⟨older, holder, haveraged⟩

theorem IsAverage.between (h : IsAverage decimals interval now latest records price)
    (hmem : latest ∈ records) :
    (∃ round ∈ records, formatted decimals round ≤ price) ∧
      ∃ round ∈ records, price ≤ formatted decimals round := by
  rcases Nat.lt_or_ge (twapStart interval now records) now with hlt | hempty
  · have hstarted : ∀ t, twapStart interval now records ≤ t →
        ∃ round ∈ records, round.updatedAt ≤ t := by
      intro t ht
      obtain ⟨round, hround, hle⟩ :=
        exists_started (now - interval) now (List.ne_nil_of_mem hmem)
      exact ⟨round, hround, hle.trans ht⟩
    rw [h.average hlt]
    constructor
    · obtain ⟨t, hstart, -, hle⟩ := StepFunction.exists_le_average hlt
      obtain ⟨round, hround, -, hvalue⟩ := StepFunction.exists_valueAt (hstarted t hstart)
      rw [hvalue] at hle
      exact ⟨round, hround, hle⟩
    · obtain ⟨t, hstart, -, hle⟩ := StepFunction.exists_average_le hlt
      obtain ⟨round, hround, -, hvalue⟩ := StepFunction.exists_valueAt (hstarted t hstart)
      rw [hvalue] at hle
      exact ⟨round, hround, hle⟩
  · rw [h.latest hempty]
    exact ⟨⟨latest, hmem, le_rfl⟩, latest, hmem, le_rfl⟩

theorem IsAverage.eq_floor (h : IsAverage decimals interval now latest records price)
    (hlt : twapStart interval now records < now) :
    price = ⌊(∫ time in (twapStart interval now records : ℝ)..now,
      (answerInForce decimals records time : ℝ)) /
        (now - twapStart interval now records : ℝ)⌋₊ := by
  rw [integral_answerInForce hlt.le, ← Nat.cast_sub hlt.le, Nat.floor_div_eq_div]
  exact h.average hlt

end ReserveOracle

open ReserveOracle

/-- Whatever a feed answers, a returned price is the average of the feed's answers over the
window, as far as its rounds reach, and it lies between two of them. A price is returned if only
one answer is read, or if the rounds are readable and in order, they leave the window a length,
and no sum overflows. -/
theorem reserve_twap_exact (o : ReserveOracle) (feeds : Address → AggregatorV3Interface)
    (rounds : Address → Nat → Except Revert RoundData) (priceFeedKey : Address)
    {interval now : Nat} (hnow : now ≤ Uint256.max) :
    (∀ price, o.getTwapPrice feeds rounds now priceFeedKey interval = .ok price →
      ∃ latest decimals records, o.Latest feeds priceFeedKey interval now latest decimals ∧
        recordsBack (rounds (o.getAggregator priceFeedKey)) (now - interval) latest = .ok records ∧
        (twapStart interval now records < now →
          price = ⌊(∫ time in (twapStart interval now records : ℝ)..now,
            (answerInForce decimals records time : ℝ)) /
              (now - twapStart interval now records : ℝ)⌋₊) ∧
        (now ≤ twapStart interval now records → price = formatted decimals latest) ∧
        (∃ round ∈ records, formatted decimals round ≤ price) ∧
        ∃ round ∈ records, price ≤ formatted decimals round) ∧
    ∀ latest decimals records, o.Latest feeds priceFeedKey interval now latest decimals →
      recordsBack (rounds (o.getAggregator priceFeedKey)) (now - interval) latest = .ok records →
      ((∃ price, o.getTwapPrice feeds rounds now priceFeedKey interval = .ok price) ↔
        Lone interval now latest ∨
          (∀ round ∈ records, Readable decimals round) ∧ Descending now records ∧
            twapStart interval now records < now ∧
            ∫ time in (twapStart interval now records : ℝ)..now,
              (answerInForce decimals records time : ℝ) ≤ Uint256.max) := by
  constructor
  · intro price h
    obtain ⟨latest, decimals, records, hlatest, hrecords, haverage⟩ := isAverage_of_ok hnow h
    have hmem : latest ∈ records := by
      obtain ⟨older, heq⟩ := recordsBack_ne_nil hrecords
      rw [heq]
      exact List.mem_cons_self
    have hbetween := haverage.between hmem
    exact ⟨latest, decimals, records, hlatest, hrecords, haverage.eq_floor, haverage.latest,
      hbetween⟩
  · intro latest decimals records hlatest hrecords
    rw [getTwapPrice_returns_iff hnow hlatest hrecords, exists_averaged]
    have hfits : twapStart interval now records < now →
        (∫ time in (twapStart interval now records : ℝ)..now,
          (answerInForce decimals records time : ℝ) ≤ Uint256.max ↔
            weightedSum decimals records (twapStart interval now records) now ≤ Uint256.max) := by
      intro hlt
      rw [integral_answerInForce hlt.le, Nat.cast_le]
    refine or_congr_right (and_congr_right fun _ => and_congr_right fun _ => ?_)
    exact and_congr_right fun hlt => (hfits hlt).symm

/-- A feed with 8 decimals and four rounds, the first of them out of reach. -/
def sampleRounds : Nat → Except Revert RoundData
  | 3 => .ok ⟨3, 130000000, 985, 990, 3⟩
  | 2 => .ok ⟨2, 110000000, 965, 970, 2⟩
  | 1 => .ok ⟨1, 100000000, 925, 930, 1⟩
  | 0 => .ok ⟨0, 900000000, 895, 900, 0⟩
  | _ + 4 => .error (.message "No data present")

def sampleFeed : AggregatorV3Interface := ⟨sampleRounds 3, .ok 8⟩

def sampleTwapOracle : ReserveOracle :=
  ⟨.account 0, Function.update (fun _ => .zero) (.account 7) (.account 9), [.account 7],
    .account 8⟩

/-- Two rounds reported just now leave the window no length. -/
example : (sampleTwapOracle.getTwapPrice (fun _ => ⟨.ok ⟨1, 100000000, 1000, 1000, 1⟩, .ok 8⟩)
    (fun _ _ => .ok ⟨0, 100000000, 1000, 1000, 0⟩) 1000 (.account 7) 60).toOption = none := by
  decide +kernel

/-- The rounds that count for the last minute of the sample. -/
def sampleRecords : List RoundData :=
  [⟨3, 130000000, 985, 990, 3⟩, ⟨2, 110000000, 965, 970, 2⟩, ⟨1, 100000000, 925, 930, 1⟩]

theorem sampleRecords_sum : weightedSum 8 sampleRecords (twapStart 60 1000 sampleRecords) 1000 =
    (10 * 130 + 20 * 110 + 30 * 100) * 10 ^ 16 := by
  decide +kernel

theorem sampleRecords_averaged :
    (∀ round ∈ sampleRecords, Readable 8 round) ∧ Descending 1000 sampleRecords ∧
      twapStart 60 1000 sampleRecords < 1000 ∧
      ∫ time in (twapStart 60 1000 sampleRecords : ℝ)..(1000 : Nat),
        (answerInForce 8 sampleRecords time : ℝ) ≤ Uint256.max := by
  have hlt : twapStart 60 1000 sampleRecords < 1000 := by decide
  refine ⟨?_, ?_, hlt, ?_⟩
  · intro round hround
    simp only [sampleRecords, List.mem_cons, List.not_mem_nil, or_false] at hround
    rcases hround with rfl | rfl | rfl <;> exact ⟨by decide, by decide, by decide⟩
  · exact ⟨by decide, by decide, by decide, trivial⟩
  · rw [integral_answerInForce hlt.le, sampleRecords_sum, Nat.cast_le]
    decide

/-- The last minute: ten seconds at 1.3, twenty at 1.1 and thirty at 1. -/
theorem reserve_twap_exact_minute :
    let price := (10 * 130 + 20 * 110 + 30 * 100) * 10 ^ 16 / 60
    sampleTwapOracle.getTwapPrice (fun _ => sampleFeed) (fun _ => sampleRounds) 1000
      (.account 7) 60 = .ok price ∧
    (∃ latest decimals records,
      recordsBack sampleRounds (1000 - 60) latest = .ok records ∧
      (∃ round ∈ records, formatted decimals round ≤ price) ∧
      ∃ round ∈ records, price ≤ formatted decimals round) ∧
    ∃ records, recordsBack sampleRounds (1000 - 60) ⟨3, 130000000, 985, 990, 3⟩ = .ok records ∧
      (∀ round ∈ records, Readable 8 round) ∧ Descending 1000 records ∧
      ∃ price', sampleTwapOracle.getTwapPrice (fun _ => sampleFeed) (fun _ => sampleRounds) 1000
        (.account 7) 60 = .ok price' := by
  intro price
  have hprice : sampleTwapOracle.getTwapPrice (fun _ => sampleFeed) (fun _ => sampleRounds)
      1000 (.account 7) 60 = .ok price :=
    eq_ok_of_passes (show passes _ _ = true by decide +kernel)
  obtain ⟨haverages, hreturns⟩ :=
    @reserve_twap_exact sampleTwapOracle (fun _ => sampleFeed) (fun _ => sampleRounds)
      (.account 7) 60 1000 (by decide)
  obtain ⟨latest, decimals, records, -, hrecords, -, -, hbetween⟩ := haverages price hprice
  have hrecords' : recordsBack sampleRounds (1000 - 60) ⟨3, 130000000, 985, 990, 3⟩ =
      .ok sampleRecords := rfl
  have hlatest : sampleTwapOracle.Latest (fun _ => sampleFeed) (.account 7) 60 1000
      ⟨3, 130000000, 985, 990, 3⟩ 8 :=
    ⟨rfl, by decide, by decide, rfl, rfl, by decide, by decide, by decide⟩
  have haveraged := sampleRecords_averaged
  refine ⟨hprice, ⟨latest, decimals, records, hrecords, hbetween⟩, sampleRecords, hrecords',
    haveraged.1, haveraged.2.1, ?_⟩
  exact (hreturns _ 8 sampleRecords hlatest hrecords').mpr (.inr haveraged)

end Confetti
