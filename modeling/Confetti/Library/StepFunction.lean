import Mathlib.Data.Nat.Cast.Order.Ring
import Mathlib.MeasureTheory.Integral.IntervalIntegral.Basic

/-! Step functions given by a list of records, the latest one first: from the start of a
record on its value is in force, and before the first record the value is zero. Over whole
units of time the integral is a sum. -/
namespace StepFunction

variable {ρ τ : Type*} [LinearOrder τ]

def valueAt (start : ρ → τ) (value : ρ → Nat) : List ρ → τ → Nat
  | [], _ => 0
  | r :: older, t => if start r ≤ t then value r else valueAt start value older t

/-- The values in force in the units of time from `a` to `b`, added up. -/
def total (start value : ρ → Nat) (records : List ρ) (a b : Nat) : Nat :=
  ∑ t ∈ Finset.Ico a b, valueAt start value records t

section Values

variable {start : ρ → τ} {value : ρ → Nat} {r : ρ} {older : List ρ} {t : τ}

theorem valueAt_cons_of_le (h : start r ≤ t) :
    valueAt start value (r :: older) t = value r := if_pos h

theorem valueAt_cons_of_lt (h : t < start r) :
    valueAt start value (r :: older) t = valueAt start value older t := if_neg (not_le.mpr h)

theorem exists_valueAt {records : List ρ} (h : ∃ r ∈ records, start r ≤ t) :
    ∃ r ∈ records, start r ≤ t ∧ valueAt start value records t = value r := by
  induction records with
  | nil =>
    obtain ⟨r, hr, -⟩ := h
    cases hr
  | cons first older ih =>
    by_cases hfirst : start first ≤ t
    · exact ⟨first, List.mem_cons_self, hfirst, valueAt_cons_of_le hfirst⟩
    · obtain ⟨r, hr, hstart⟩ := h
      have hmem : r ∈ older := by
        cases List.mem_cons.mp hr with
        | inl heq =>
          rw [heq] at hstart
          exact absurd hstart hfirst
        | inr hmem => exact hmem
      obtain ⟨found, hfound, hle, hvalue⟩ := ih ⟨r, hmem, hstart⟩
      refine ⟨found, List.mem_cons_of_mem first hfound, hle, ?_⟩
      rw [valueAt_cons_of_lt (not_le.mp hfirst), hvalue]

end Values

section Totals

variable {start value : ρ → Nat} {r : ρ} {records older : List ρ} {a b : Nat}

theorem total_cons_of_le (h : start r ≤ a) :
    total start value (r :: older) a b = value r * (b - a) := by
  have hconst : ∀ t ∈ Finset.Ico a b, valueAt start value (r :: older) t = value r := by
    intro t ht
    exact valueAt_cons_of_le (h.trans (Finset.mem_Ico.mp ht).1)
  unfold total
  rw [Finset.sum_congr rfl hconst, Finset.sum_const, Nat.card_Ico, smul_eq_mul, Nat.mul_comm]

theorem total_cons_of_ge (h : b ≤ start r) :
    total start value (r :: older) a b = total start value older a b := by
  apply Finset.sum_congr rfl
  intro t ht
  exact valueAt_cons_of_lt ((Finset.mem_Ico.mp ht).2.trans_le h)

theorem total_self : total start value records a a = 0 := by
  unfold total
  rw [Finset.Ico_self, Finset.sum_empty]

theorem total_cons (ha : a ≤ start r) (hb : start r ≤ b) :
    total start value (r :: older) a b =
      value r * (b - start r) + total start value older a (start r) := by
  have hsplit : total start value (r :: older) a (start r) +
      total start value (r :: older) (start r) b = total start value (r :: older) a b :=
    Finset.sum_Ico_consecutive _ ha hb
  rw [← hsplit, total_cons_of_ge le_rfl, total_cons_of_le le_rfl, Nat.add_comm]

/-! The average over a window, rounded down, lies between values in force there. -/

theorem exists_le_average (h : a < b) :
    ∃ t, a ≤ t ∧ t < b ∧
      valueAt start value records t ≤ total start value records a b / (b - a) := by
  let average := total start value records a b / (b - a)
  have hsum : total start value records a b < ∑ _t ∈ Finset.Ico a b, (average + 1) := by
    rw [Finset.sum_const, Nat.card_Ico, smul_eq_mul]
    exact Nat.lt_mul_div_succ _ (Nat.sub_pos_of_lt h)
  obtain ⟨t, ht, hlt⟩ := Finset.exists_lt_of_sum_lt hsum
  obtain ⟨hat, htb⟩ := Finset.mem_Ico.mp ht
  exact ⟨t, hat, htb, Nat.le_of_lt_succ hlt⟩

theorem exists_average_le (h : a < b) :
    ∃ t, a ≤ t ∧ t < b ∧
      total start value records a b / (b - a) ≤ valueAt start value records t := by
  let average := total start value records a b / (b - a)
  have hsum : ∑ _t ∈ Finset.Ico a b, average ≤ total start value records a b := by
    rw [Finset.sum_const, Nat.card_Ico, smul_eq_mul]
    exact Nat.mul_div_le _ _
  obtain ⟨t, ht, hle⟩ := Finset.exists_le_of_sum_le (Finset.nonempty_Ico.mpr h) hsum
  obtain ⟨hat, htb⟩ := Finset.mem_Ico.mp ht
  exact ⟨t, hat, htb, hle⟩

end Totals

/-! ### Real time -/

section RealTime

variable (start value : ρ → Nat)

theorem valueAt_cast (records : List ρ) {x : ℝ} (hx : 0 ≤ x) :
    valueAt (fun r => (start r : ℝ)) value records x = valueAt start value records ⌊x⌋₊ := by
  induction records with
  | nil => rfl
  | cons r older ih =>
    unfold valueAt
    rw [ih]
    exact if_congr (Nat.le_floor_iff hx).symm rfl rfl

theorem integral_valueAt (records : List ρ) {a b : Nat} (hab : a ≤ b) :
    ∫ x in (a : ℝ)..b, (valueAt (fun r => (start r : ℝ)) value records x : ℝ) =
      total start value records a b := by
  let f : ℝ → ℝ := fun x => valueAt (fun r => (start r : ℝ)) value records x
  have hpiece : ∀ t : Nat,
      Set.EqOn f (fun _ => (valueAt start value records t : ℝ)) (Set.Ioo t (t + 1 : Nat)) := by
    intro t x hx
    have hnonneg : 0 ≤ x := t.cast_nonneg.trans hx.1.le
    have hfloor : ⌊x⌋₊ = t := by
      rw [Nat.floor_eq_iff hnonneg]
      refine ⟨hx.1.le, ?_⟩
      rw [← Nat.cast_add_one]
      exact hx.2
    simp only [f, valueAt_cast start value records hnonneg, hfloor]
  have hle : ∀ t : Nat, (t : ℝ) ≤ (t + 1 : Nat) := fun t => Nat.cast_le.mpr t.le_succ
  have hintegrable : ∀ t ∈ Set.Ico a b,
      IntervalIntegrable f MeasureTheory.volume t (t + 1 : Nat) := by
    intro t _
    have hconst : IntervalIntegrable (fun _ => (valueAt start value records t : ℝ))
        MeasureTheory.volume t (t + 1 : Nat) := intervalIntegrable_const
    apply hconst.congr_uIoo
    rw [Set.uIoo_of_le (hle t)]
    exact (hpiece t).symm
  rw [← intervalIntegral.sum_integral_adjacent_intervals_Ico hab hintegrable, total,
    Nat.cast_sum]
  apply Finset.sum_congr rfl
  intro t _
  rw [intervalIntegral.integral_congr_Ioo_of_le (hle t) (hpiece t),
    intervalIntegral.integral_const]
  simp

end RealTime

end StepFunction
