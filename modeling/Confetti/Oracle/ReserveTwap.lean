import Confetti.Library.StepFunction
import Confetti.Oracle.ReserveOracle
import Mathlib.Algebra.Order.Floor.Semifield

/-! `ReserveOracle.getTwapPrice`: the average of a feed's answers over the last stretch of time,
read round by round from the latest one back. -/
namespace Confetti
open Outcome

namespace ReserveOracle

/-- The loop over the rounds before `roundId`, down to the start of the window or to round
zero. -/
def twapLoop (getRoundData : Nat → Except Revert RoundData)
    (decimals interval baseTimestamp : Nat) : Nat → Nat → Nat → Nat → Except Revert Nat
  | 0, cumulativeTime, _, weightedPrice => Uint256.div weightedPrice cumulativeTime
  | roundId + 1, cumulativeTime, previousTimestamp, weightedPrice => do
    let round ← getRoundData roundId
    require (0 ≤ round.answer) (.message "ReserveOracle: negative answer")
    let price ← formatDecimals round.answer.toNat decimals
    let currentTimestamp := round.updatedAt
    if currentTimestamp ≤ baseTimestamp then do
      let weightedTime ← Uint256.sub previousTimestamp baseTimestamp
      let weighted ← Uint256.mul price weightedTime
      let weightedPrice ← Uint256.add weightedPrice weighted
      Uint256.div weightedPrice interval
    else do
      let timeFraction ← Uint256.sub previousTimestamp currentTimestamp
      let weighted ← Uint256.mul price timeFraction
      let weightedPrice ← Uint256.add weightedPrice weighted
      let cumulativeTime ← Uint256.add cumulativeTime timeFraction
      twapLoop getRoundData decimals interval baseTimestamp roundId cumulativeTime currentTimestamp
        weightedPrice

/-- `rounds` answers `getRoundData` for every feed. -/
def getTwapPrice (o : ReserveOracle) (feeds : Address → AggregatorV3Interface)
    (rounds : Address → Nat → Except Revert RoundData) (now : Nat) (priceFeedKey : Address)
    (interval : Nat) : Except Revert Nat := do
  require (o.isExistedKey priceFeedKey = true) (.message "ReserveOracle: key not existed")
  require (interval ≠ 0) (.message "ReserveOracle: interval can't be 0")
  let aggregator := o.getAggregator priceFeedKey
  let round ← (feeds aggregator).latestRoundData
  require (0 ≤ round.answer) (.message "ReserveOracle: negative answer")
  let decimals ← (feeds aggregator).decimals
  let latestPrice ← formatDecimals round.answer.toNat decimals
  let latestTimestamp := round.updatedAt
  let baseTimestamp ← Uint256.sub now interval
  if latestTimestamp < baseTimestamp ∨ round.roundId = 0 then pure latestPrice
  else do
    let cumulativeTime ← Uint256.sub now latestTimestamp
    let weightedPrice ← Uint256.mul latestPrice cumulativeTime
    twapLoop (rounds aggregator) decimals interval baseTimestamp round.roundId cumulativeTime
      latestTimestamp weightedPrice

/-! ### What the code reads of a feed -/

/-- The rounds before `roundId`, latest first, down to the first one that is no later than a
time, or to round zero. -/
def roundsBack (getRoundData : Nat → Except Revert RoundData) (time : Nat) :
    Nat → Except Revert (List RoundData)
  | 0 => pure []
  | roundId + 1 => do
    let round ← getRoundData roundId
    if round.updatedAt ≤ time then pure [round]
    else do
      let older ← roundsBack getRoundData time roundId
      pure (round :: older)

/-- The latest round with those before it, as far as the window reaches. -/
def recordsBack (getRoundData : Nat → Except Revert RoundData) (time : Nat) (latest : RoundData) :
    Except Revert (List RoundData) :=
  if latest.updatedAt < time then pure [latest]
  else do
    let older ← roundsBack getRoundData time latest.roundId
    pure (latest :: older)

def formatted (decimals : Nat) (round : RoundData) : Nat :=
  round.answer.toNat * TOKEN_DIGIT / 10 ^ decimals

/-- The answer is not negative, and scaling it does not overflow. -/
structure Readable (decimals : Nat) (round : RoundData) : Prop where
  answer : 0 ≤ round.answer
  scaled : round.answer.toNat * TOKEN_DIGIT ≤ Uint256.max
  unit : 10 ^ decimals ≤ Uint256.max

/-- The rounds were reported one after the other, and none after a time. -/
def Descending : Nat → List RoundData → Prop
  | _, [] => True
  | time, round :: older => round.updatedAt ≤ time ∧ Descending round.updatedAt older

/-- The start of the window: `base`, or the oldest round if that is later, or `time` if there is
no round at all. -/
def opens (base : Nat) : Nat → List RoundData → Nat
  | time, [] => max base time
  | _, round :: older => opens base round.updatedAt older

/-- The answers in force, added up second by second. -/
def weightedSum (decimals : Nat) (records : List RoundData) (a b : Nat) : Nat :=
  StepFunction.total RoundData.updatedAt (formatted decimals) records a b

variable {o : ReserveOracle} {getRoundData : Nat → Except Revert RoundData}
  {decimals base now interval time previous roundId weighted price : Nat} {round latest : RoundData}
  {records older : List RoundData}

theorem formatDecimals_eq_ok {a value : Nat} :
    formatDecimals a decimals = .ok value ↔
      a * TOKEN_DIGIT ≤ Uint256.max ∧ 10 ^ decimals ≤ Uint256.max ∧
        a * TOKEN_DIGIT / 10 ^ decimals = value := by
  have hunit : 10 ^ decimals ≠ 0 := (Nat.pow_pos (by decide)).ne'
  simp only [formatDecimals, Uint256.pow, Uint256.div, bind_eq_ok, Uint256.mul_eq_ok,
    Uint256.checked_eq_ok]
  constructor
  · rintro ⟨_, ⟨hscaled, rfl⟩, _, ⟨hfits, rfl⟩, h⟩
    rw [if_pos hunit] at h
    exact ⟨hscaled, hfits, Except.ok.inj h⟩
  · rintro ⟨hscaled, hfits, rfl⟩
    exact ⟨_, ⟨hscaled, rfl⟩, _, ⟨hfits, rfl⟩, if_pos hunit⟩

theorem opens_le (h : Descending time records) : opens base time records ≤ max base time := by
  induction records generalizing time with
  | nil => exact Nat.le_refl _
  | cons round older ih =>
    have hround : max base round.updatedAt ≤ max base time := max_le_max_left base h.1
    exact (ih h.2).trans hround

/-! ### The loop -/

theorem weightedSum_cons (decimals : Nat) (hbase : base ≤ round.updatedAt)
    (hdescending : Descending previous (round :: older)) :
    weightedSum decimals (round :: older) (opens base previous (round :: older)) previous =
      formatted decimals round * (previous - round.updatedAt) +
        weightedSum decimals older (opens base round.updatedAt older) round.updatedAt := by
  apply StepFunction.total_cons _ hdescending.1
  have hle : opens base round.updatedAt older ≤ max base round.updatedAt := opens_le hdescending.2
  rwa [Nat.max_eq_right hbase] at hle

private theorem last_pass (hinterval : base + interval = now) (hpositive : 0 < interval)
    (hbase : base ≤ previous) (hround : round.updatedAt ≤ base) {a : Nat}
    (hprice : formatted decimals round = a) :
    ((do
      let weightedTime ← Uint256.sub previous base
      let added ← Uint256.mul a weightedTime
      let total ← Uint256.add weighted added
      Uint256.div total interval) = .ok price) ↔
      weighted + weightedSum decimals [round] base previous ≤ Uint256.max ∧
        price = (weighted + weightedSum decimals [round] base previous) / (now - base) := by
  have hsum : weightedSum decimals [round] base previous = a * (previous - base) := by
    rw [← hprice]
    exact StepFunction.total_cons_of_le hround
  have htime : now - base = interval := by omega
  rw [hsum, htime]
  simp only [bind_eq_ok, Uint256.sub_eq_ok, Uint256.mul_eq_ok, Uint256.add_eq_ok]
  constructor
  · rintro ⟨_, ⟨-, rfl⟩, _, ⟨-, rfl⟩, _, ⟨hfits, rfl⟩, h⟩
    rw [Uint256.div, if_pos hpositive.ne'] at h
    exact ⟨hfits, (Except.ok.inj h).symm⟩
  · rintro ⟨hfits, rfl⟩
    refine ⟨_, ⟨hbase, rfl⟩, _, ⟨(Nat.le_add_left _ _).trans hfits, rfl⟩, _, ⟨hfits, rfl⟩, ?_⟩
    exact if_pos hpositive.ne'

private theorem next_pass (hnow : now ≤ Uint256.max) (hprevious : previous ≤ now) {a : Nat}
    {rest : Nat → Nat → Except Revert Nat} :
    ((do
      let timeFraction ← Uint256.sub previous time
      let added ← Uint256.mul a timeFraction
      let total ← Uint256.add weighted added
      let cumulativeTime ← Uint256.add (now - previous) timeFraction
      rest cumulativeTime total) = .ok price) ↔
      time ≤ previous ∧ weighted + a * (previous - time) ≤ Uint256.max ∧
        rest (now - time) (weighted + a * (previous - time)) = .ok price := by
  simp only [bind_eq_ok, Uint256.sub_eq_ok, Uint256.mul_eq_ok, Uint256.add_eq_ok]
  constructor
  · rintro ⟨_, ⟨hle, rfl⟩, _, ⟨-, rfl⟩, _, ⟨hfits, rfl⟩, _, ⟨-, rfl⟩, h⟩
    have htime : now - previous + (previous - time) = now - time := by omega
    rw [htime] at h
    exact ⟨hle, hfits, h⟩
  · rintro ⟨hle, hfits, h⟩
    have htime : now - previous + (previous - time) = now - time := by omega
    refine ⟨_, ⟨hle, rfl⟩, _, ⟨(Nat.le_add_left _ _).trans hfits, rfl⟩, _, ⟨hfits, rfl⟩, _,
      ⟨by omega, htime⟩, h⟩

theorem twapLoop_eq_ok (hinterval : base + interval = now) (hpositive : 0 < interval)
    (hnow : now ≤ Uint256.max) (hbase : base ≤ previous) (hprevious : previous ≤ now)
    (hweighted : weighted ≤ Uint256.max) :
    twapLoop getRoundData decimals interval base roundId (now - previous) previous weighted =
        .ok price ↔
      ∃ older, roundsBack getRoundData base roundId = .ok older ∧
        (∀ round ∈ older, Readable decimals round) ∧ Descending previous older ∧
        opens base previous older < now ∧
        weighted + weightedSum decimals older (opens base previous older) previous ≤ Uint256.max ∧
        price = (weighted + weightedSum decimals older (opens base previous older) previous) /
          (now - opens base previous older) := by
  induction roundId generalizing previous weighted with
  | zero =>
    have hopens : opens base previous [] = previous := Nat.max_eq_right hbase
    have hnothing : weightedSum decimals [] previous previous = 0 := StepFunction.total_self
    constructor
    · intro h
      simp only [twapLoop, Uint256.div] at h
      split at h
      · rename_i htime
        refine ⟨[], rfl, nofun, trivial, ?_⟩
        rw [hopens, hnothing]
        exact ⟨by omega, hweighted, (Except.ok.inj h).symm⟩
      · cases h
    · rintro ⟨_, hrounds, -, -, hlt, -, rfl⟩
      obtain rfl := pure_eq_ok.mp hrounds
      rw [hopens] at hlt ⊢
      rw [hnothing]
      exact if_pos (by omega)
  | succ roundId ih =>
    simp only [twapLoop, roundsBack, bind_eq_ok, require_eq_ok, exists_const, formatDecimals_eq_ok]
    constructor
    · rintro ⟨round, hround, hanswer, a, ⟨hscaled, hunit, hprice⟩, h⟩
      have hread : Readable decimals round := ⟨hanswer, hscaled, hunit⟩
      have hprice : formatted decimals round = a := hprice
      split at h
      · rename_i hearly
        obtain ⟨hfits, hprice'⟩ :=
          (last_pass hinterval hpositive hbase hearly hprice).mp h
        have hopens : opens base previous [round] = base := Nat.max_eq_left hearly
        refine ⟨[round], ⟨round, hround, if_pos hearly⟩, ?_, ⟨hearly.trans hbase, trivial⟩, ?_⟩
        · intro other hother
          rw [List.mem_singleton.mp hother]
          exact hread
        · rw [hopens]
          exact ⟨by omega, hfits, hprice'⟩
      · rename_i hlate
        obtain ⟨hle, hfits, h⟩ := (next_pass hnow hprevious).mp h
        have hbase' : base ≤ round.updatedAt := (Nat.lt_of_not_le hlate).le
        obtain ⟨older, hrounds, hreads, hdescending, hlt, htotal, hprice'⟩ :=
          (ih hbase' (hle.trans hprevious) hfits).mp h
        have hsum := weightedSum_cons decimals hbase' ⟨hle, hdescending⟩
        rw [Nat.add_assoc] at htotal hprice'
        refine ⟨round :: older, ⟨round, hround, ?_⟩, ?_, ⟨hle, hdescending⟩, hlt, ?_⟩
        · rw [if_neg hlate]
          exact bind_eq_ok.mpr ⟨older, hrounds, rfl⟩
        · exact List.forall_mem_cons.mpr ⟨hread, hreads⟩
        · rw [hsum, hprice]
          exact ⟨htotal, hprice'⟩
    · rintro ⟨records, ⟨round, hround, hrounds⟩, hreads, hdescending, hlt, htotal, hprice'⟩
      split at hrounds
      · rename_i hearly
        obtain rfl := pure_eq_ok.mp hrounds
        have hopens : opens base previous [round] = base := Nat.max_eq_left hearly
        have hread := hreads round List.mem_cons_self
        rw [hopens] at htotal hprice'
        refine ⟨round, hround, hread.answer, _, ⟨hread.scaled, hread.unit, rfl⟩, ?_⟩
        rw [if_pos hearly]
        exact (last_pass hinterval hpositive hbase hearly rfl).mpr ⟨htotal, hprice'⟩
      · rename_i hlate
        obtain ⟨older, holder, hrecords⟩ := bind_eq_ok.mp hrounds
        obtain rfl := pure_eq_ok.mp hrecords
        have hbase' : base ≤ round.updatedAt := (Nat.lt_of_not_le hlate).le
        obtain ⟨hread, holders⟩ := List.forall_mem_cons.mp hreads
        rw [weightedSum_cons decimals hbase' hdescending, ← Nat.add_assoc] at htotal hprice'
        have hfits := (Nat.le_add_right _ _).trans htotal
        refine ⟨round, hround, hread.answer, _, ⟨hread.scaled, hread.unit, rfl⟩, ?_⟩
        rw [if_neg hlate]
        refine (next_pass hnow hprevious).mpr ⟨hdescending.1, hfits, ?_⟩
        exact (ih hbase' (hdescending.1.trans hprevious) hfits).mpr
          ⟨older, holder, holders, hdescending.2, hlt, htotal, hprice'⟩

/-! ### The whole computation -/

def twapStart (interval now : Nat) (records : List RoundData) : Nat :=
  opens (now - interval) now records

/-- The average over the window can be computed: the records can be read, they are in order, and
the sum fits in a word. -/
structure Averaged (decimals interval now : Nat) (records : List RoundData) (price : Nat) :
    Prop where
  readable : ∀ round ∈ records, Readable decimals round
  descending : Descending now records
  start_lt : twapStart interval now records < now
  fits : weightedSum decimals records (twapStart interval now records) now ≤ Uint256.max
  price_eq : price = weightedSum decimals records (twapStart interval now records) now /
    (now - twapStart interval now records)

private theorem latest_pass (hpositive : 0 < interval) (hle : interval ≤ now)
    (hnow : now ≤ Uint256.max) (hread : Readable decimals latest)
    (hbase : now - interval ≤ latest.updatedAt) :
    ((do
      let cumulativeTime ← Uint256.sub now latest.updatedAt
      let weightedPrice ← Uint256.mul (formatted decimals latest) cumulativeTime
      twapLoop getRoundData decimals interval (now - interval) roundId cumulativeTime
        latest.updatedAt weightedPrice) = .ok price) ↔
      ∃ older, roundsBack getRoundData (now - interval) roundId = .ok older ∧
        Averaged decimals interval now (latest :: older) price := by
  have hinterval : now - interval + interval = now := Nat.sub_add_cancel hle
  simp only [bind_eq_ok, Uint256.sub_eq_ok, Uint256.mul_eq_ok]
  constructor
  · rintro ⟨_, ⟨hlatest, rfl⟩, _, ⟨hfits, rfl⟩, h⟩
    obtain ⟨older, hrounds, hreads, hdescending, hlt, htotal, hprice⟩ :=
      (twapLoop_eq_ok hinterval hpositive hnow hbase hlatest hfits).mp h
    rw [← weightedSum_cons decimals hbase ⟨hlatest, hdescending⟩] at htotal hprice
    exact ⟨older, hrounds, List.forall_mem_cons.mpr ⟨hread, hreads⟩, ⟨hlatest, hdescending⟩, hlt,
      htotal, hprice⟩
  · rintro ⟨older, hrounds, hreads, ⟨hlatest, hdescending⟩, hlt, htotal, hprice⟩
    unfold twapStart at htotal hprice
    rw [weightedSum_cons decimals hbase ⟨hlatest, hdescending⟩] at htotal hprice
    have hfits := (Nat.le_add_right _ _).trans htotal
    refine ⟨_, ⟨hlatest, rfl⟩, _, ⟨hfits, rfl⟩, ?_⟩
    exact (twapLoop_eq_ok hinterval hpositive hnow hbase hlatest hfits).mpr
      ⟨older, hrounds, (List.forall_mem_cons.mp hreads).2, hdescending, hlt, htotal, hprice⟩

/-- The code returns the latest answer when it is older than the window or the only one. -/
def Lone (interval now : Nat) (latest : RoundData) : Prop :=
  latest.updatedAt < now - interval ∨ latest.roundId = 0

instance (interval now : Nat) (latest : RoundData) : Decidable (Lone interval now latest) :=
  inferInstanceAs (Decidable (_ ∨ _))

variable {feeds : Address → AggregatorV3Interface}
  {rounds : Address → Nat → Except Revert RoundData} {priceFeedKey : Address}

/-- What is read of a feed before anything is averaged. -/
structure Latest (o : ReserveOracle) (feeds : Address → AggregatorV3Interface)
    (priceFeedKey : Address) (interval now : Nat) (latest : RoundData) (decimals : Nat) : Prop where
  registered : o.isExistedKey priceFeedKey = true
  interval_pos : 0 < interval
  interval_le : interval ≤ now
  round : (feeds (o.getAggregator priceFeedKey)).latestRoundData = .ok latest
  decimals_eq : (feeds (o.getAggregator priceFeedKey)).decimals = .ok decimals
  readable : Readable decimals latest

theorem getTwapPrice_eq_ok (hnow : now ≤ Uint256.max) :
    o.getTwapPrice feeds rounds now priceFeedKey interval = .ok price ↔
      ∃ latest decimals, o.Latest feeds priceFeedKey interval now latest decimals ∧
        if Lone interval now latest then price = formatted decimals latest
        else ∃ older, roundsBack (rounds (o.getAggregator priceFeedKey)) (now - interval)
            latest.roundId = .ok older ∧
          Averaged decimals interval now (latest :: older) price := by
  simp only [getTwapPrice, bind_eq_ok, require_eq_ok, exists_const, formatDecimals_eq_ok,
    Uint256.sub_eq_ok]
  constructor
  · rintro ⟨hkey, hinterval, latest, hlatest, hanswer, decimals, hdecimals, _,
      ⟨hscaled, hunit, rfl⟩, _, ⟨hle, rfl⟩, h⟩
    have hread : Readable decimals latest := ⟨hanswer, hscaled, hunit⟩
    have hpositive := Nat.pos_of_ne_zero hinterval
    refine ⟨latest, decimals, ⟨hkey, hpositive, hle, hlatest, hdecimals, hread⟩, ?_⟩
    by_cases hlone : Lone interval now latest
    · rw [if_pos hlone]
      rw [if_pos (show _ ∨ _ from hlone)] at h
      exact (pure_eq_ok.mp h).symm
    · rw [if_neg hlone]
      rw [if_neg (show ¬(_ ∨ _) from hlone)] at h
      have hbase := Nat.le_of_not_lt (not_or.mp hlone).1
      exact (latest_pass hpositive hle hnow hread hbase).mp h
  · rintro ⟨latest, decimals, hlatest, h⟩
    have hread := hlatest.readable
    refine ⟨hlatest.registered, hlatest.interval_pos.ne', latest, hlatest.round, hread.answer,
      decimals, hlatest.decimals_eq, _, ⟨hread.scaled, hread.unit, rfl⟩, _,
      ⟨hlatest.interval_le, rfl⟩, ?_⟩
    by_cases hlone : Lone interval now latest
    · rw [if_pos hlone] at h
      rw [if_pos (show _ ∨ _ from hlone)]
      exact pure_eq_ok.mpr h.symm
    · rw [if_neg hlone] at h
      rw [if_neg (show ¬(_ ∨ _) from hlone)]
      have hbase := Nat.le_of_not_lt (not_or.mp hlone).1
      exact (latest_pass hlatest.interval_pos hlatest.interval_le hnow hread hbase).mpr h

end ReserveOracle

end Confetti
