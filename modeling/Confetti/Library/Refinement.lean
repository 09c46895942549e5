import Confetti.Library.TransitionSystem

/-! Programs that are built from the steps of a transition system. The state may be a part
of what they work on; `view` tells which. -/
namespace TransitionSystem
open Outcome

variable {σ τ α β label label' fault fault' : Type} {sys : System σ label fault}
  {abs : System τ label' fault'}

def Reaches (sys : System σ label fault) (s s' : σ) : Prop := ∃ history, Run sys s history s'

theorem Reaches.refl (s : σ) : Reaches sys s s := ⟨[], .nil s⟩

theorem Reaches.step {s s' : σ} {l : label} (h : sys.step s l = .ok s') : Reaches sys s s' :=
  ⟨_, .single h⟩

theorem Reaches.trans {s m s' : σ} (h : Reaches sys s m) (h' : Reaches sys m s') :
    Reaches sys s s' := by
  obtain ⟨before, hbefore⟩ := h
  obtain ⟨after, hafter⟩ := h'
  exact ⟨before ++ after, hbefore.append hafter⟩

theorem Reaches.reachable {s s' : σ} (h : Reaches sys s s') (hs : Reachable sys s) :
    Reachable sys s' := by
  obtain ⟨_, hrun⟩ := h
  exact hrun.reachable hs

/-! ### Programs -/

/-- Whatever the program returns shows a state that the system reaches from `s`. -/
def Advances (sys : System σ label fault) (s : σ) (view : α → σ) (x : Except fault' α) : Prop :=
  ∀ a, x = .ok a → Reaches sys s (view a)

section Rules

variable {s : σ} {view : α → σ} {view' : β → σ} {x y : Except fault' α} {f : α → Except fault' β}

theorem advances_of_same (h : ∀ a, x = .ok a → view a = s) : Advances sys s view x := by
  intro a ha
  rw [h a ha]
  exact Reaches.refl s

theorem advances_pure {a : α} (h : view a = s) : Advances sys s view (pure a : Except fault' α) := by
  apply advances_of_same
  intro b hb
  rw [← pure_eq_ok.mp hb, h]

theorem advances_error (e : fault') : Advances sys s view (.error e) := by
  intro a ha
  cases ha

theorem Advances.bind (hx : Advances sys s view x) (hf : ∀ a, Advances sys (view a) view' (f a)) :
    Advances sys s view' (x >>= f) := by
  intro b hb
  obtain ⟨a, ha, hb⟩ := bind_eq_ok.mp hb
  exact (hx a ha).trans (hf a b hb)

theorem advances_skip (hf : ∀ a, Advances sys s view' (f a)) : Advances sys s view' (x >>= f) := by
  intro b hb
  obtain ⟨a, -, hb⟩ := bind_eq_ok.mp hb
  exact hf a b hb

theorem Advances.map {g : α → β} (hx : Advances sys s view x)
    (hg : ∀ a, view' (g a) = view a) : Advances sys s view' (g <$> x) := by
  intro b hb
  obtain ⟨a, ha, rfl⟩ := map_eq_ok.mp hb
  rw [hg]
  exact hx a ha

theorem advances_ite {condition : Prop} [Decidable condition] (hx : Advances sys s view x)
    (hy : Advances sys s view y) : Advances sys s view (if condition then x else y) := by
  split
  · exact hx
  · exact hy

theorem advances_foldlM {body : α → β → Except fault' α} (xs : List β)
    (hbody : ∀ a x, Advances sys (view a) view (body a x)) (a : α) :
    Advances sys (view a) view (xs.foldlM body a) := by
  intro b hb
  have hpass : ∀ m x m', x ∈ xs → Reaches sys (view a) (view m) → body m x = .ok m' →
      Reaches sys (view a) (view m') := by
    intro m x m' _ hm hstep
    exact hm.trans (hbody m x m' hstep)
  exact foldlM_preserves xs hpass a b (Reaches.refl _) hb

end Rules

/-! ### Refinement -/

theorem Reachable.refines {view : σ → τ} (hinit : ∀ s, sys.initial s → abs.initial (view s))
    (hstep : ∀ s l, Advances abs (view s) view (sys.step s l)) {s : σ} (h : Reachable sys s) :
    Reachable abs (view s) := by
  induction h with
  | initial hs => exact .initial (hinit _ hs)
  | step _ hlast ih => exact (hstep _ _ _ hlast).reachable ih

end TransitionSystem
