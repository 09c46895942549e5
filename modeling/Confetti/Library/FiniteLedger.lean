import Mathlib.Algebra.BigOperators.Group.Finset.Basic
import Mathlib.Algebra.BigOperators.Group.Finset.Piecewise
import Mathlib.Algebra.Order.BigOperators.Group.Finset
import Mathlib.Data.Finset.Range
import Mathlib.Tactic.Abel

/-! Totals over the entries of a ledger that are rewritten one at a time. The
entries are numbered; the total of a measure moves by the difference the
rewritten entry makes. -/
namespace FiniteLedger

variable {ι κ M : Type} [DecidableEq ι] [AddCommMonoid M]

def total (entries : Finset ι) (measure : κ → M) (ledger : ι → κ) : M :=
  ∑ i ∈ entries, measure (ledger i)

variable {entries : Finset ι} {measure : κ → M} {ledger : ι → κ}

theorem total_update {i : ι} (hi : i ∈ entries) (v : κ) :
    total entries measure (Function.update ledger i v) + measure (ledger i) =
      total entries measure ledger + measure v := by
  unfold total
  have hnew : ∑ j ∈ entries.erase i, measure (Function.update ledger i v j) =
      ∑ j ∈ entries.erase i, measure (ledger j) := by
    refine Finset.sum_congr rfl fun j hj => ?_
    rw [Function.update_of_ne (Finset.ne_of_mem_erase hj)]
  rw [← Finset.add_sum_erase entries _ hi, ← Finset.add_sum_erase entries _ hi, hnew,
    Function.update_self]
  abel

theorem total_update_of_notMem {i : ι} (hi : i ∉ entries) (v : κ) :
    total entries measure (Function.update ledger i v) = total entries measure ledger := by
  refine Finset.sum_congr rfl fun j hj => ?_
  rw [Function.update_of_ne (ne_of_mem_of_not_mem hj hi)]

theorem total_insert {i : ι} (hi : i ∉ entries) :
    total (insert i entries) measure ledger = measure (ledger i) + total entries measure ledger :=
  Finset.sum_insert hi

omit [DecidableEq ι] in
theorem total_eq_zero (h : ∀ i ∈ entries, measure (ledger i) = 0) :
    total entries measure ledger = 0 :=
  Finset.sum_eq_zero h

theorem total_range_succ_update {ledger : Nat → κ} (n : Nat) (v : κ) :
    total (Finset.range (n + 1)) measure (Function.update ledger n v) =
      total (Finset.range n) measure ledger + measure v := by
  unfold total
  rw [Finset.sum_range_succ, Function.update_self]
  congr 1
  refine Finset.sum_congr rfl fun j hj => ?_
  rw [Function.update_of_ne (Nat.ne_of_lt (Finset.mem_range.mp hj))]

omit [DecidableEq ι] in
theorem measure_le_total {measure : κ → Nat} {i : ι} (hi : i ∈ entries) :
    measure (ledger i) ≤ total entries measure ledger :=
  Finset.single_le_sum (fun j _ => Nat.zero_le (measure (ledger j))) hi

end FiniteLedger
