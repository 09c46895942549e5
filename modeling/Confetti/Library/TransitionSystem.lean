import Confetti.Library.Outcome

/-! Transition systems whose step is a program that may refuse. Reachability,
runs with their history, and replay of a concrete list of labels all speak
about the same step function. -/
namespace TransitionSystem
open Outcome

structure System (σ label fault : Type) where
  initial : σ → Prop
  step : σ → label → Except fault σ

variable {σ label fault : Type} {sys : System σ label fault}

inductive Reachable (sys : System σ label fault) : σ → Prop
  | initial {s : σ} : sys.initial s → Reachable sys s
  | step {s s' : σ} {l : label} : Reachable sys s → sys.step s l = .ok s' → Reachable sys s'

/-- One accepted step together with the states around it. -/
structure Transition (σ label : Type) where
  pre : σ
  label : label
  post : σ

inductive Run (sys : System σ label fault) : σ → List (Transition σ label) → σ → Prop
  | nil (s : σ) : Run sys s [] s
  | snoc {s m s' : σ} {l : label} {history : List (Transition σ label)} :
      Run sys s history m → sys.step m l = .ok s' → Run sys s (history ++ [⟨m, l, s'⟩]) s'

theorem Reachable.invariant {inv : σ → Prop} (hinit : ∀ s, sys.initial s → inv s)
    (hstep : ∀ s l s', Reachable sys s → inv s → sys.step s l = .ok s' → inv s')
    {s : σ} (h : Reachable sys s) : inv s := by
  induction h with
  | initial h => exact hinit _ h
  | step hr hs ih => exact hstep _ _ _ hr ih hs

theorem Run.single {s s' : σ} {l : label} (h : sys.step s l = .ok s') :
    Run sys s [⟨s, l, s'⟩] s' := .snoc (.nil s) h

theorem Run.append {s m s' : σ} {before after : List (Transition σ label)}
    (hbefore : Run sys s before m) (hafter : Run sys m after s') :
    Run sys s (before ++ after) s' := by
  induction hafter with
  | nil =>
    rw [List.append_nil]
    exact hbefore
  | snoc _ hstep ih =>
    rw [← List.append_assoc]
    exact .snoc ih hstep

theorem Run.reachable {s s' : σ} {history : List (Transition σ label)}
    (h : Run sys s history s') (hs : Reachable sys s) : Reachable sys s' := by
  induction h with
  | nil => exact hs
  | snoc _ hstep ih => exact .step ih hstep

theorem Run.transition_reachable {s s' : σ} {history : List (Transition σ label)}
    (h : Run sys s history s') (hs : Reachable sys s) :
    ∀ t ∈ history, Reachable sys t.pre ∧ sys.step t.pre t.label = .ok t.post := by
  induction h with
  | nil => simp
  | snoc hrun hstep ih =>
    intro t ht
    rcases List.mem_append.mp ht with ht | ht
    · exact ih t ht
    · cases List.mem_singleton.mp ht
      exact ⟨hrun.reachable hs, hstep⟩

theorem Run.preserves {inv : σ → Prop} {allowed : σ → label → Prop}
    (hstep : ∀ s l s', Reachable sys s → allowed s l → inv s → sys.step s l = .ok s' → inv s')
    {s s' : σ} {history : List (Transition σ label)} (h : Run sys s history s')
    (hs : Reachable sys s) (hallowed : ∀ t ∈ history, allowed t.pre t.label) (hinv : inv s) :
    inv s' ∧ ∀ t ∈ history, inv t.post := by
  induction h with
  | nil => exact ⟨hinv, fun t ht => by cases ht⟩
  | @snoc m s' l history hrun hlast ih =>
    have hbefore := ih fun t ht => hallowed t (List.mem_append_left _ ht)
    have hnow : inv s' := by
      apply hstep m l s' (hrun.reachable hs) _ hbefore.1 hlast
      exact hallowed ⟨m, l, s'⟩ (List.mem_append_right _ List.mem_cons_self)
    refine ⟨hnow, fun t ht => ?_⟩
    rcases List.mem_append.mp ht with ht | ht
    · exact hbefore.2 t ht
    · cases List.mem_singleton.mp ht
      exact hnow

theorem Run.observes {inv : σ → Prop} {allowed : σ → label → Prop}
    {good : Transition σ label → Prop}
    (hstep : ∀ s l s', Reachable sys s → allowed s l → inv s → sys.step s l = .ok s' →
      inv s' ∧ good ⟨s, l, s'⟩)
    {s s' : σ} {history : List (Transition σ label)} (h : Run sys s history s')
    (hs : Reachable sys s) (hallowed : ∀ t ∈ history, allowed t.pre t.label) (hinv : inv s) :
    ∀ t ∈ history, good t := by
  induction h with
  | nil => exact nofun
  | @snoc m s' l history hrun hlast ih =>
    have hbefore : ∀ t ∈ history, allowed t.pre t.label :=
      fun t ht => hallowed t (List.mem_append_left _ ht)
    intro t ht
    rcases List.mem_append.mp ht with ht | ht
    · exact ih hbefore t ht
    · cases List.mem_singleton.mp ht
      have hkeep := fun s l s' hs ha hi hok => (hstep s l s' hs ha hi hok).1
      have hm := (Run.preserves hkeep hrun hs hbefore hinv).1
      have hlabel := hallowed ⟨m, l, s'⟩ (List.mem_append_right _ List.mem_cons_self)
      exact (hstep m l s' (hrun.reachable hs) hlabel hm hlast).2

/-! ### Values that are carried along a run -/

section Carried

variable {γ : Type} {next : γ → Transition σ label → γ}

/-- What becomes of a value that every step updates. -/
def carried (next : γ → Transition σ label → γ) (start : γ)
    (history : List (Transition σ label)) : γ :=
  history.foldl next start

/-- Every step is allowed with the value that is carried to it. -/
def AllowedWith (next : γ → Transition σ label → γ) (allowed : γ → Transition σ label → Prop) :
    γ → List (Transition σ label) → Prop
  | _, [] => True
  | value, t :: history => allowed value t ∧ AllowedWith next allowed (next value t) history

variable {allowed : γ → Transition σ label → Prop}

instance decidableAllowedWith [∀ value t, Decidable (allowed value t)] : (value : γ) →
    (history : List (Transition σ label)) → Decidable (AllowedWith next allowed value history)
  | _, [] => inferInstanceAs (Decidable True)
  | value, t :: history =>
    have := decidableAllowedWith (next value t) history
    inferInstanceAs (Decidable (_ ∧ _))

theorem carried_snoc (start : γ) (history : List (Transition σ label)) (t : Transition σ label) :
    carried next start (history ++ [t]) = next (carried next start history) t := by
  unfold carried
  rw [List.foldl_append, List.foldl_cons, List.foldl_nil]

theorem allowedWith_snoc {start : γ} {history : List (Transition σ label)}
    {t : Transition σ label} : AllowedWith next allowed start (history ++ [t]) ↔
      AllowedWith next allowed start history ∧ allowed (carried next start history) t := by
  induction history generalizing start with
  | nil => simp [AllowedWith, carried]
  | cons first history ih =>
    rw [List.cons_append]
    simp only [AllowedWith, ih, and_assoc]
    rfl

theorem allowedWith_of_forall {history : List (Transition σ label)} (start : γ)
    (h : ∀ t ∈ history, ∀ value, allowed value t) : AllowedWith next allowed start history := by
  induction history generalizing start with
  | nil => trivial
  | cons first history ih =>
    refine ⟨h first List.mem_cons_self start, ih _ fun t ht => ?_⟩
    exact h t (List.mem_cons_of_mem first ht)

theorem Run.preserves_carried {inv : γ → σ → Prop}
    (hstep : ∀ value s l s', Reachable sys s → allowed value ⟨s, l, s'⟩ → inv value s →
      sys.step s l = .ok s' → inv (next value ⟨s, l, s'⟩) s')
    {s s' : σ} {history : List (Transition σ label)} (h : Run sys s history s')
    (hs : Reachable sys s) {start : γ} (hallowed : AllowedWith next allowed start history)
    (hinv : inv start s) : inv (carried next start history) s' := by
  induction h with
  | nil => exact hinv
  | @snoc m s' l history hrun hlast ih =>
    obtain ⟨hbefore, hnow⟩ := allowedWith_snoc.mp hallowed
    rw [carried_snoc]
    exact hstep _ m l s' (hrun.reachable hs) hnow (ih hbefore) hlast

end Carried

theorem Run.last_write {β : Type} {view : σ → β} {writes : label → Prop}
    (hkeep : ∀ s l s', ¬writes l → sys.step s l = .ok s' → view s' = view s) {s s' : σ}
    {history : List (Transition σ label)} (h : Run sys s history s') :
    view s' = view s ∨ ∃ before t after, history = before ++ t :: after ∧ writes t.label ∧
      view s' = view t.post ∧ ∀ later ∈ after, ¬writes later.label := by
  induction h with
  | nil => exact .inl rfl
  | @snoc m s' l history hrun hlast ih =>
    by_cases hwrites : writes l
    · exact .inr ⟨history, ⟨m, l, s'⟩, [], rfl, hwrites, rfl, nofun⟩
    · have hsame := hkeep m l s' hwrites hlast
      rcases ih with hview | ⟨before, t, after, rfl, ht, hview, hafter⟩
      · exact .inl (hsame.trans hview)
      · refine .inr ⟨before, t, after ++ [⟨m, l, s'⟩], ?_, ht, hsame.trans hview, ?_⟩
        · rw [List.append_assoc, List.cons_append]
        · intro later hlater
          rcases List.mem_append.mp hlater with hold | hnew
          · exact hafter later hold
          · rw [List.mem_singleton.mp hnew]
            exact hwrites

theorem Run.change_caused {β : Type} {view : σ → β} {inv : σ → Prop}
    {allowed cause : σ → label → Prop}
    (hstep : ∀ s l s', Reachable sys s → allowed s l → inv s → sys.step s l = .ok s' → inv s')
    (hkeep : ∀ s l s', inv s → ¬cause s l → sys.step s l = .ok s' → view s' = view s)
    {s s' : σ} {history : List (Transition σ label)} (h : Run sys s history s')
    (hs : Reachable sys s) (hallowed : ∀ t ∈ history, allowed t.pre t.label) (hinv : inv s)
    (hchange : view s' ≠ view s) : ∃ t ∈ history, cause t.pre t.label := by
  by_contra hnone
  have hquiet : ∀ t ∈ history, allowed t.pre t.label ∧ ¬cause t.pre t.label :=
    fun t ht => ⟨hallowed t ht, fun hcause => hnone ⟨t, ht, hcause⟩⟩
  have hsame : ∀ m l m', Reachable sys m → allowed m l ∧ ¬cause m l →
      inv m ∧ view m = view s → sys.step m l = .ok m' → inv m' ∧ view m' = view s := by
    rintro m l m' hm ⟨hallowed, hquiet⟩ ⟨hinv, hview⟩ hlast
    exact ⟨hstep m l m' hm hallowed hinv hlast, (hkeep m l m' hinv hquiet hlast).trans hview⟩
  exact hchange (Run.preserves hsame h hs hquiet ⟨hinv, rfl⟩).1.2

/-- Try the labels in order; a refused one has no effect. -/
def replayed (sys : System σ label fault) : σ → List label → σ
  | s, [] => s
  | s, l :: labels =>
    match sys.step s l with
    | .ok s' => replayed sys s' labels
    | .error _ => replayed sys s labels

def trace (sys : System σ label fault) : σ → List label → List (Transition σ label)
  | _, [] => []
  | s, l :: labels =>
    match sys.step s l with
    | .ok s' => ⟨s, l, s'⟩ :: trace sys s' labels
    | .error _ => trace sys s labels

theorem trace_run (s : σ) (labels : List label) :
    Run sys s (trace sys s labels) (replayed sys s labels) := by
  induction labels generalizing s with
  | nil => exact .nil s
  | cons l labels ih =>
    unfold trace replayed
    cases hstep : sys.step s l with
    | error e => exact ih s
    | ok s' => exact (Run.single hstep).append (ih s')

theorem replayed_reachable {s : σ} (hs : Reachable sys s) (labels : List label) :
    Reachable sys (replayed sys s labels) := (trace_run s labels).reachable hs

end TransitionSystem
