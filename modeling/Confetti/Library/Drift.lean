import Confetti.Library.TransitionSystem
import Mathlib.Algebra.BigOperators.Group.List.Basic
import Mathlib.Algebra.Order.Ring.Rat
import Mathlib.Tactic.Linarith

/-! Invariants that hold up to a slack. Every step may use up some of it, and what a run may
use up is the sum over its steps. -/
namespace TransitionSystem

variable {σ label fault : Type} {sys : System σ label fault} {s s' : σ}
  {history : List (Transition σ label)}

/-- The cost of a run. -/
def drift (cost : Transition σ label → ℚ) (history : List (Transition σ label)) : ℚ :=
  (history.map cost).sum

theorem drift_append (cost : Transition σ label → ℚ) (before after : List (Transition σ label)) :
    drift cost (before ++ after) = drift cost before + drift cost after := by
  unfold drift
  rw [List.map_append, List.sum_append]

theorem drift_single (cost : Transition σ label → ℚ) (t : Transition σ label) :
    drift cost [t] = cost t := by
  simp [drift]

/-- What an allowed step keeps up to its cost, a run of allowed steps keeps up to its drift. The
steps carry a value along that the invariant and what is allowed may depend on. -/
theorem Run.drifts {γ : Type} {next : γ → Transition σ label → γ} {cost : Transition σ label → ℚ}
    (inv : γ → σ → ℚ → Prop) {allowed : γ → Transition σ label → Prop}
    (hstep : ∀ value m l m' slack, Reachable sys m → allowed value ⟨m, l, m'⟩ →
      inv value m slack → sys.step m l = .ok m' →
        inv (next value ⟨m, l, m'⟩) m' (slack + cost ⟨m, l, m'⟩))
    (h : Run sys s history s') (hs : Reachable sys s) {start : γ}
    (hallowed : AllowedWith next allowed start history) {slack : ℚ} (hinv : inv start s slack) :
    inv (carried next start history) s' (slack + drift cost history) := by
  induction h with
  | nil =>
    simpa [drift, carried] using hinv
  | @snoc m s' l history hrun hlast ih =>
    obtain ⟨hbefore, hnow⟩ := allowedWith_snoc.mp hallowed
    rw [drift_append, drift_single, ← add_assoc, carried_snoc]
    exact hstep _ m l s' _ (hrun.reachable hs) hnow (ih hbefore) hlast

/-- Steps that cost a constant, if they are counted, and so much for every unit by which they
advance a clock, add up to that for the whole run. -/
theorem Run.drift_le {cost : Transition σ label → ℚ} {counted : Transition σ label → Bool}
    {each unit : ℚ} (allowed : Transition σ label → Prop) (clock : σ → ℚ)
    (hstep : ∀ m l m', Reachable sys m → allowed ⟨m, l, m'⟩ → sys.step m l = .ok m' →
      cost ⟨m, l, m'⟩ ≤ (if counted ⟨m, l, m'⟩ then each else 0) + unit * (clock m' - clock m))
    (h : Run sys s history s') (hs : Reachable sys s) (hallowed : ∀ t ∈ history, allowed t) :
    drift cost history ≤ each * history.countP counted + unit * (clock s' - clock s) := by
  induction h with
  | nil =>
    simp [drift]
  | @snoc m s' l history hrun hlast ih =>
    have hbefore := ih fun t ht => hallowed t (List.mem_append_left _ ht)
    have hnow := hstep m l s' (hrun.reachable hs)
      (hallowed _ (List.mem_append_right _ List.mem_cons_self)) hlast
    rw [drift_append, drift_single, List.countP_append, List.countP_singleton]
    split at hnow
    · rename_i hcounted
      rw [if_pos hcounted]
      push_cast
      linarith
    · rename_i hcounted
      rw [if_neg hcounted]
      push_cast
      linarith

end TransitionSystem
