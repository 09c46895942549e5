import Mathlib.Data.List.Nodup
import Mathlib.Data.List.Range
import Mathlib.Logic.Function.Basic

/-! A directory that only grows: a table of entries with a counter, and for every
element a number that was meant to be its position. The number is stored in a field of
limited width, so it is the position only while the table is short. -/

structure Directory (α : Type*) where
  entries : Nat → α
  count : Nat
  id : α → Nat
  present : α → Prop

namespace Directory

variable {α : Type*}

def toList (d : Directory α) : List α := (List.range d.count).map d.entries

def Positioned (d : Directory α) : Prop := ∀ a, d.present a → d.entries (d.id a) = a

/-- The table lists what is present, each element once, and leaves the rest blank. -/
structure Exact (d : Directory α) (blank : α) (width : Nat) : Prop where
  entry : ∀ i < d.count, d.present (d.entries i)
  listed : ∀ a, d.present a → ∃ i < d.count, d.entries i = a
  injective : ∀ i < d.count, ∀ j < d.count, d.entries i = d.entries j → i = j
  id_entry : ∀ i < d.count, d.id (d.entries i) = i % width
  id_absent : ∀ a, ¬d.present a → d.id a = 0
  beyond : ∀ i, d.count ≤ i → d.entries i = blank
  blank_absent : ¬d.present blank

variable {d : Directory α} {a blank : α} {width : Nat}

theorem length_toList (d : Directory α) : d.toList.length = d.count := by
  simp [toList]

theorem Exact.mem_toList (h : d.Exact blank width) : a ∈ d.toList ↔ d.present a := by
  unfold toList
  simp only [List.mem_map, List.mem_range]
  constructor
  · intro hmem
    obtain ⟨i, hi, rfl⟩ := hmem
    exact h.entry i hi
  · exact h.listed a

theorem Exact.nodup_toList (h : d.Exact blank width) : d.toList.Nodup := by
  unfold toList
  apply List.Nodup.map_on _ List.nodup_range
  intro i hi j hj heq
  exact h.injective i (List.mem_range.mp hi) j (List.mem_range.mp hj) heq

theorem exact_of_empty (hcount : d.count = 0) (habsent : ∀ a, ¬d.present a)
    (hid : ∀ a, d.id a = 0) (hblank : ∀ i, d.entries i = blank) : d.Exact blank width := by
  have hnone : ∀ i, ¬i < d.count := by
    intro i
    rw [hcount]
    exact Nat.not_lt_zero i
  refine ⟨?_, ?_, ?_, ?_, fun a _ => hid a, fun i _ => hblank i, habsent blank⟩
  · exact fun i hi => absurd hi (hnone i)
  · exact fun a ha => absurd ha (habsent a)
  · exact fun i hi => absurd hi (hnone i)
  · exact fun i hi => absurd hi (hnone i)

theorem Exact.not_added (h : d.Exact blank width) (ha : ¬d.present a) (hblank : a ≠ blank) :
    ¬(d.id a ≠ 0 ∨ d.entries 0 = a) := by
  intro hadded
  rcases hadded with hid | hfirst
  · exact hid (h.id_absent a ha)
  · rcases Nat.eq_zero_or_pos d.count with hzero | hpos
    · rw [h.beyond 0 (by omega)] at hfirst
      exact hblank hfirst.symm
    · rw [← hfirst] at ha
      exact ha (h.entry 0 hpos)

theorem Exact.positioned_iff (h : d.Exact blank width) (hwidth : 0 < width) :
    d.Positioned ↔ d.count ≤ width := by
  constructor
  · intro hpositioned
    by_contra hlong
    have hlt : width < d.count := by omega
    have hentry := hpositioned (d.entries width) (h.entry width hlt)
    rw [h.id_entry width hlt, Nat.mod_self] at hentry
    have hzero := h.injective 0 (by omega) width hlt hentry
    omega
  · intro hshort a ha
    obtain ⟨i, hi, rfl⟩ := h.listed a ha
    rw [h.id_entry i hi, Nat.mod_eq_of_lt (by omega)]

section Append

variable [DecidableEq α]

def append (d : Directory α) (a : α) (width : Nat) : Directory α where
  entries := Function.update d.entries d.count a
  count := d.count + 1
  id := Function.update d.id a (d.count % width)
  present b := b = a ∨ d.present b

theorem Exact.append (h : d.Exact blank width) (ha : ¬d.present a) (hblank : a ≠ blank) :
    (d.append a width).Exact blank width := by
  have hold : ∀ i < d.count, (d.append a width).entries i = d.entries i := by
    intro i hi
    exact Function.update_of_ne (Nat.ne_of_lt hi) _ _
  have hlast : (d.append a width).entries d.count = a := Function.update_self _ _ _
  have hne : ∀ i < d.count, d.entries i ≠ a := by
    intro i hi heq
    rw [← heq] at ha
    exact ha (h.entry i hi)
  have hcases : ∀ i, i < (d.append a width).count → i < d.count ∨ i = d.count := by
    intro i hi
    change i < d.count + 1 at hi
    omega
  refine ⟨?_, ?_, ?_, ?_, ?_, ?_, ?_⟩
  · intro i hi
    rcases hcases i hi with hi | rfl
    · rw [hold i hi]
      exact .inr (h.entry i hi)
    · rw [hlast]
      exact .inl rfl
  · intro b hb
    rcases hb with rfl | hb
    · exact ⟨d.count, Nat.lt_succ_self _, hlast⟩
    · obtain ⟨i, hi, hentry⟩ := h.listed b hb
      exact ⟨i, Nat.lt_succ_of_lt hi, (hold i hi).trans hentry⟩
  · intro i hi j hj heq
    rcases hcases i hi with hi | rfl
    · rcases hcases j hj with hj | rfl
      · rw [hold i hi, hold j hj] at heq
        exact h.injective i hi j hj heq
      · rw [hold i hi, hlast] at heq
        exact absurd heq (hne i hi)
    · rcases hcases j hj with hj | rfl
      · rw [hlast, hold j hj] at heq
        exact absurd heq.symm (hne j hj)
      · rfl
  · intro i hi
    rcases hcases i hi with hi | rfl
    · rw [hold i hi]
      exact (Function.update_of_ne (hne i hi) _ _).trans (h.id_entry i hi)
    · rw [hlast]
      exact Function.update_self _ _ _
  · intro b hb
    obtain ⟨hother, hb⟩ := not_or.mp hb
    exact (Function.update_of_ne hother _ _).trans (h.id_absent b hb)
  · intro i hi
    change d.count + 1 ≤ i at hi
    exact (Function.update_of_ne (by omega) _ _).trans (h.beyond i (by omega))
  · intro hmem
    rcases hmem with heq | hmem
    · exact hblank heq.symm
    · exact h.blank_absent hmem

end Append

end Directory
