import Confetti.Gateway.Refinement
import Confetti.Invariants.Batches

/-! Batches and gateways are conveniences: with them the protocol's storage reaches no state
that single calls of the pool do not reach, and all of those. -/
namespace Confetti
open Outcome TransitionSystem

variable {setup : GatewaySetup} {s : State} {w w' : World}

def World.around (s : State) : World where
  state := s
  ether := fun _ => 0
  acceptsETH := fun _ => false
  punks := ⟨false, fun _ => .zero, fun _ => 0, fun _ => ⟨false, .zero, 0, .zero⟩,
    fun _ => ⟨false, .zero, 0⟩, fun _ => 0⟩
  wrapperPaused := false
  wethWhitelist := fun _ => false
  punkWhitelist := fun _ => false
  poolCalls := []

theorem World.call_around {operation : Operation} {s' : State} (hstate : w.state = s)
    (h : operation.run s = .ok s') :
    ∃ w', (worlds setup).step w (.protocol operation) = .ok w' ∧ w'.state = s' := by
  subst hstate
  exact ⟨{ w with state := s' }, World.call_eq_ok.mpr ⟨s', h, rfl⟩, rfl⟩

theorem worlds_reach (h : Reachable operations s) :
    ∃ w, Reachable (worlds setup) w ∧ w.state = s := by
  induction h with
  | initial hs => exact ⟨World.around _, .initial hs, rfl⟩
  | step _ hstep ih =>
    obtain ⟨w, hw, hstate⟩ := ih
    obtain ⟨w', hstep', hstate'⟩ := World.call_around hstate hstep
    exact ⟨w', .step hw hstep', hstate'⟩

theorem transactions_reach (h : Reachable operations s) : Reachable transactions s := by
  induction h with
  | initial hs => exact .initial hs
  | @step _ _ operation _ hstep ih =>
    have hsingle : transactions.step _ (.single operation) = .ok _ := hstep
    exact .step ih hsingle

/-- Neither batches nor the gateways reach anything that single calls do not reach. -/
theorem conveniences_add_no_states (setup : GatewaySetup) :
    (Reachable transactions s ↔ Reachable operations s) ∧
      ((∃ w, Reachable (worlds setup) w ∧ w.state = s) ↔ Reachable operations s) := by
  refine ⟨⟨reachable_operations, transactions_reach⟩, ?_, worlds_reach⟩
  rintro ⟨w, hw, rfl⟩
  exact state_reachable hw

end Confetti
