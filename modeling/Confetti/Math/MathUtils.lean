import Confetti.Math.WadRayMath

/-! `MathUtils`: simple interest for depositors, a truncated binomial for borrowers. -/
namespace Confetti
open Outcome HalfUp

/-- `365 days`, ignoring leap years -/
def SECONDS_PER_YEAR : Nat := 365 * 86400

def calculateLinearInterest (rate lastUpdateTimestamp currentTimestamp : Nat) :
    Except Revert Nat := do
  let timeDifference ← Uint256.sub currentTimestamp lastUpdateTimestamp
  let product ← Uint256.mul rate timeDifference
  Uint256.add (product / SECONDS_PER_YEAR) RAY

def calculateCompoundedInterest (rate lastUpdateTimestamp currentTimestamp : Nat) :
    Except Revert Nat := do
  let exp ← Uint256.sub currentTimestamp lastUpdateTimestamp
  if exp = 0 then pure RAY else do
    let expMinusOne := exp - 1
    let expMinusTwo := if exp > 2 then exp - 2 else 0
    let ratePerSecond := rate / SECONDS_PER_YEAR
    let basePowerTwo ← rayMul ratePerSecond ratePerSecond
    let basePowerThree ← rayMul basePowerTwo ratePerSecond
    let pairs ← Uint256.mul exp expMinusOne
    let secondProduct ← Uint256.mul pairs basePowerTwo
    let triples ← Uint256.mul pairs expMinusTwo
    let thirdProduct ← Uint256.mul triples basePowerThree
    let firstTerm ← Uint256.mul ratePerSecond exp
    let upToFirst ← Uint256.add RAY firstTerm
    let upToSecond ← Uint256.add upToFirst (secondProduct / 2)
    Uint256.add upToSecond (thirdProduct / 6)

variable {rate last now r : Nat}

theorem calculateLinearInterest_eq_ok :
    calculateLinearInterest rate last now = .ok r ↔
      last ≤ now ∧ rate * (now - last) ≤ Uint256.max ∧
        rate * (now - last) / SECONDS_PER_YEAR + RAY ≤ Uint256.max ∧
          rate * (now - last) / SECONDS_PER_YEAR + RAY = r := by
  simp only [calculateLinearInterest, bind_eq_ok, Uint256.sub_eq_ok, Uint256.mul_eq_ok,
    Uint256.add_eq_ok]
  constructor
  · rintro ⟨_, ⟨hle, rfl⟩, _, ⟨hmul, rfl⟩, hadd, rfl⟩
    exact ⟨hle, hmul, hadd, rfl⟩
  · rintro ⟨hle, hmul, hadd, rfl⟩
    exact ⟨_, ⟨hle, rfl⟩, _, ⟨hmul, rfl⟩, hadd, rfl⟩

theorem RAY_le_linearInterest (h : calculateLinearInterest rate last now = .ok r) : RAY ≤ r := by
  obtain ⟨-, -, -, rfl⟩ := calculateLinearInterest_eq_ok.mp h
  exact Nat.le_add_left _ _

theorem linearInterest_self (h : calculateLinearInterest rate now now = .ok r) : r = RAY := by
  obtain ⟨-, -, -, rfl⟩ := calculateLinearInterest_eq_ok.mp h
  simp

theorem linearInterest_zero_rate (h : last ≤ now) :
    calculateLinearInterest 0 last now = .ok RAY := by
  rw [calculateLinearInterest_eq_ok, Nat.zero_mul, Nat.zero_div, Nat.zero_add]
  exact ⟨h, Nat.zero_le _, RAY_le_max, rfl⟩

theorem RAY_lt_linearInterest (hgain : SECONDS_PER_YEAR ≤ rate * (now - last))
    (h : calculateLinearInterest rate last now = .ok r) : RAY < r := by
  obtain ⟨-, -, -, rfl⟩ := calculateLinearInterest_eq_ok.mp h
  have hpos : 0 < rate * (now - last) / SECONDS_PER_YEAR := Nat.div_pos hgain (by decide)
  omega

@[simp] theorem calculateCompoundedInterest_self (rate now : Nat) :
    calculateCompoundedInterest rate now now = .ok RAY := by
  simp [calculateCompoundedInterest, Uint256.sub, pure, Except.pure]

theorem compoundedInterest_spec (h : calculateCompoundedInterest rate last now = .ok r) :
    last ≤ now ∧ ∃ rest, r = RAY + rate / SECONDS_PER_YEAR * (now - last) + rest ∧
      (rate < SECONDS_PER_YEAR → rest = 0) := by
  simp only [calculateCompoundedInterest, bind_eq_ok, Uint256.sub_eq_ok] at h
  obtain ⟨_, ⟨hle, rfl⟩, h⟩ := h
  refine ⟨hle, ?_⟩
  by_cases hexp : now - last = 0
  · rw [if_pos hexp, pure_eq_ok] at h
    exact ⟨0, by rw [hexp]; omega, fun _ => rfl⟩
  · rw [if_neg hexp] at h
    simp only [bind_eq_ok, Uint256.mul_eq_ok, Uint256.add_eq_ok] at h
    obtain ⟨two, htwo, three, hthree, _, ⟨-, rfl⟩, _, ⟨-, rfl⟩, _, ⟨-, rfl⟩, _, ⟨-, rfl⟩,
      _, ⟨-, rfl⟩, _, ⟨-, rfl⟩, _, ⟨-, rfl⟩, -, rfl⟩ := h
    refine ⟨_, Nat.add_assoc _ _ _, fun hsmall => ?_⟩
    have hzero : rate / SECONDS_PER_YEAR = 0 := Nat.div_eq_of_lt hsmall
    rw [hzero] at htwo hthree
    obtain rfl : two = 0 := by simpa [eq_comm] using htwo
    obtain rfl : three = 0 := by simpa [eq_comm] using hthree
    simp

/-- The third coefficient of the expansion has to fit a word before it is weighted. -/
def CoefficientsFit (exp : Nat) : Prop := exp * (exp - 1) * (exp - 2) ≤ Uint256.max

instance (exp : Nat) : Decidable (CoefficientsFit exp) := inferInstanceAs (Decidable (_ ≤ _))

private theorem expMinusTwo_eq (exp : Nat) : (if exp > 2 then exp - 2 else 0) = exp - 2 := by
  split <;> omega

theorem coefficientsFit_of_ok (h : calculateCompoundedInterest rate last now = .ok r) :
    CoefficientsFit (now - last) := by
  simp only [calculateCompoundedInterest, bind_eq_ok, Uint256.sub_eq_ok] at h
  obtain ⟨_, ⟨-, rfl⟩, h⟩ := h
  unfold CoefficientsFit
  by_cases hexp : now - last = 0
  · rw [hexp]
    exact Nat.zero_le _
  · rw [if_neg hexp] at h
    simp only [bind_eq_ok, Uint256.mul_eq_ok, expMinusTwo_eq] at h
    obtain ⟨_, -, _, -, _, ⟨-, rfl⟩, _, -, _, ⟨hfits, -⟩, -⟩ := h
    exact hfits

theorem compoundedInterest_of_small (hrate : rate < SECONDS_PER_YEAR) (hle : last ≤ now)
    (hfits : CoefficientsFit (now - last)) :
    calculateCompoundedInterest rate last now = .ok RAY := by
  have hzero : rate / SECONDS_PER_YEAR = 0 := Nat.div_eq_of_lt hrate
  simp only [calculateCompoundedInterest, bind_eq_ok, Uint256.sub_eq_ok]
  refine ⟨now - last, ⟨hle, rfl⟩, ?_⟩
  by_cases hexp : now - last = 0
  · rw [if_pos hexp]
    rfl
  · rw [if_neg hexp]
    have hpairs : (now - last) * (now - last - 1) ≤ Uint256.max := by
      unfold CoefficientsFit at hfits
      rcases Nat.lt_or_ge 2 (now - last) with hlarge | hsmall
      · have hone : 1 ≤ now - last - 2 := by omega
        exact (Nat.le_mul_of_pos_right _ hone).trans hfits
      · have hfew : (now - last) * (now - last - 1) ≤ 2 * 2 :=
          Nat.mul_le_mul hsmall (by omega)
        exact hfew.trans (by decide)
    simp only [hzero, rayMul_zero_left, ok_bind, expMinusTwo_eq, bind_eq_ok, Uint256.mul_eq_ok,
      Uint256.add_eq_ok]
    refine ⟨_, ⟨hpairs, rfl⟩, 0, ⟨Nat.zero_le _, rfl⟩, _, ⟨hfits, rfl⟩, 0, ⟨Nat.zero_le _, rfl⟩, 0,
      ⟨by simp, by simp⟩, RAY, ⟨RAY_le_max, rfl⟩, RAY, ⟨RAY_le_max, rfl⟩, RAY_le_max, rfl⟩

theorem RAY_le_compoundedInterest (h : calculateCompoundedInterest rate last now = .ok r) :
    RAY ≤ r := by
  obtain ⟨-, rest, rfl, -⟩ := compoundedInterest_spec h
  omega

theorem RAY_lt_compoundedInterest (hrate : SECONDS_PER_YEAR ≤ rate) (htime : last < now)
    (h : calculateCompoundedInterest rate last now = .ok r) : RAY < r := by
  obtain ⟨-, rest, rfl, -⟩ := compoundedInterest_spec h
  have hper : 0 < rate / SECONDS_PER_YEAR := Nat.div_pos hrate (by decide)
  have : 0 < rate / SECONDS_PER_YEAR * (now - last) := Nat.mul_pos hper (by omega)
  omega

section Faults

variable {bad : Revert → Prop}

theorem avoids_calculateLinearInterest (hpanic : ¬bad .panic) (rate last now : Nat) :
    Avoids bad (calculateLinearInterest rate last now) :=
  (Uint256.avoids_sub hpanic _ _).bind fun _ _ =>
    (Uint256.avoids_mul hpanic _ _).bind fun _ _ => Uint256.avoids_add hpanic _ _

theorem avoids_calculateCompoundedInterest (hpanic : ¬bad .panic) (herror : ∀ e, ¬bad (.error e))
    (rate last now : Nat) : Avoids bad (calculateCompoundedInterest rate last now) := by
  refine (Uint256.avoids_sub hpanic _ _).bind fun exp _ => ?_
  refine avoids_ite (fun _ => avoids_pure _) fun _ => ?_
  refine (avoids_rayMul hpanic herror _ _).bind fun _ _ => ?_
  refine (avoids_rayMul hpanic herror _ _).bind fun _ _ => ?_
  iterate 5 refine (Uint256.avoids_mul hpanic _ _).bind fun _ _ => ?_
  iterate 2 refine (Uint256.avoids_add hpanic _ _).bind fun _ _ => ?_
  exact Uint256.avoids_add hpanic _ _

end Faults

end Confetti
