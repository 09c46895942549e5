import Mathlib.Data.List.Nodup
import Mathlib.Data.List.Perm.Basic

/-! A list of keys that is kept beside a map: new keys are pushed behind the others, and
the last key takes the place of a removed one. -/
namespace KeyList

variable {α : Type*}

def swapPop (keys : List α) (i : Nat) : List α :=
  match keys.getLast? with
  | none => []
  | some last => (keys.set i last).dropLast

/-- The loop over the positions stops at the first one that holds the key. -/
def remove [DecidableEq α] (keys : List α) (key : α) : List α :=
  match keys.idxOf? key with
  | none => keys
  | some i => swapPop keys i

/-- The list holds each key that is present once, and no other. -/
structure Exact (keys : List α) (present : α → Prop) : Prop where
  nodup : keys.Nodup
  mem_iff : ∀ key, key ∈ keys ↔ present key

variable {keys : List α} {key : α} {i : Nat} {present present' : α → Prop}

theorem swapPop_perm (hi : i < keys.length) : (swapPop keys i).Perm (keys.eraseIdx i) := by
  rcases List.eq_nil_or_concat keys with hnil | ⟨xs, last, heq⟩
  · rw [hnil] at hi
    exact absurd hi (Nat.not_lt_zero i)
  · rw [List.concat_eq_append] at heq
    have hswap : swapPop keys i = ((xs ++ [last]).set i last).dropLast := by
      unfold swapPop
      rw [heq, List.getLast?_concat]
    rw [heq, List.length_append, List.length_singleton] at hi
    rw [hswap, heq]
    rcases Nat.lt_succ_iff_lt_or_eq.mp hi with hlt | hlast
    · rw [List.set_append_left i last hlt, List.dropLast_concat,
        List.eraseIdx_append_of_lt_length hlt]
      exact (List.set_perm_cons_eraseIdx hlt last).trans (List.perm_append_singleton _ _).symm
    · rw [hlast, List.set_append_right _ _ (Nat.le_refl _),
        List.eraseIdx_append_of_length_le (Nat.le_refl _)]
      simp

theorem swapPop_last (keys : List α) : swapPop keys (keys.length - 1) = keys.dropLast := by
  rcases List.eq_nil_or_concat keys with hnil | ⟨xs, last, heq⟩
  · rw [hnil]
    rfl
  · rw [heq, List.concat_eq_append]
    simp [swapPop]

theorem remove_perm [DecidableEq α] (keys : List α) (key : α) :
    (remove keys key).Perm (keys.erase key) := by
  rw [List.erase_eq_eraseIdx]
  unfold remove
  cases hfound : keys.idxOf? key with
  | none => exact List.Perm.refl _
  | some i =>
    apply swapPop_perm
    exact (List.findIdx?_eq_some_iff_getElem.mp hfound).1

theorem Exact.congr (h : Exact keys present) (hsame : ∀ key, present key ↔ present' key) :
    Exact keys present' := ⟨h.nodup, fun key => (h.mem_iff key).trans (hsame key)⟩

theorem Exact.nil (hnone : ∀ key, ¬present key) : Exact [] present := by
  refine ⟨List.nodup_nil, fun key => ?_⟩
  constructor
  · intro hmem
    cases hmem
  · intro hpresent
    exact absurd hpresent (hnone key)

theorem Exact.push (h : Exact keys present) (hkey : ¬present key) :
    Exact (keys ++ [key]) fun other => other = key ∨ present other := by
  refine ⟨?_, fun other => ?_⟩
  · rw [List.nodup_append]
    refine ⟨h.nodup, List.nodup_singleton key, fun a ha b hb => ?_⟩
    rw [List.mem_singleton.mp hb]
    intro heq
    rw [heq] at ha
    exact hkey ((h.mem_iff key).mp ha)
  · rw [List.mem_append, List.mem_singleton, h.mem_iff]
    exact or_comm

theorem Exact.remove [DecidableEq α] (h : Exact keys present) (key : α) :
    Exact (remove keys key) fun other => other ≠ key ∧ present other := by
  have hperm := remove_perm keys key
  refine ⟨hperm.nodup_iff.mpr (h.nodup.erase key), fun other => ?_⟩
  rw [hperm.mem_iff, h.nodup.mem_erase_iff, h.mem_iff]

end KeyList
