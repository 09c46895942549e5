import Mathlib.Logic.Basic
import Mathlib.Data.List.Basic

/-! Rules for programs that either return a value or stop with a fault.
Inversion of a successful run peels one call at a time; `Avoids` does the same
for the faults a program can never end in. -/
namespace Outcome

variable {ε α β σ : Type}

def require (condition : Prop) [Decidable condition] (fault : ε) : Except ε Unit :=
  if condition then .ok () else .error fault

@[simp] theorem require_eq_ok {condition : Prop} [Decidable condition] {fault : ε} {u : Unit} :
    require condition fault = .ok u ↔ condition := by
  unfold require
  split <;> simp_all

theorem require_eq_error {condition : Prop} [Decidable condition] {fault e : ε} :
    require condition fault = .error e ↔ ¬condition ∧ fault = e := by
  unfold require
  split <;> simp_all

theorem require_of {condition : Prop} [Decidable condition] {fault : ε} (h : condition) :
    require condition fault = .ok () := if_pos h

theorem bind_eq_ok {x : Except ε α} {f : α → Except ε β} {b : β} :
    (x >>= f) = .ok b ↔ ∃ a, x = .ok a ∧ f a = .ok b := by
  cases x with
  | error e => simp [bind, Except.bind]
  | ok a => simp [bind, Except.bind]

theorem bind_eq_error {x : Except ε α} {f : α → Except ε β} {e : ε} :
    (x >>= f) = .error e ↔ x = .error e ∨ ∃ a, x = .ok a ∧ f a = .error e := by
  cases x with
  | error e => simp [bind, Except.bind]
  | ok a => simp [bind, Except.bind]

@[simp] theorem ok_bind (a : α) (f : α → Except ε β) : (Except.ok a >>= f) = f a := rfl

@[simp] theorem error_bind (e : ε) (f : α → Except ε β) : (Except.error e >>= f) = .error e := rfl

@[simp] theorem pure_eq_ok {a b : α} : (pure a : Except ε α) = .ok b ↔ a = b := by
  simp [pure, Except.pure]

theorem bind_pure_eq_ok {x : Except ε α} {f : α → β} {b : β} :
    (x >>= fun a => pure (f a)) = .ok b ↔ ∃ a, x = .ok a ∧ b = f a := by
  simp only [bind_eq_ok, pure_eq_ok]
  exact exists_congr fun a => and_congr_right fun _ => eq_comm

theorem map_eq_ok {x : Except ε α} {f : α → β} {b : β} :
    (f <$> x) = .ok b ↔ ∃ a, x = .ok a ∧ b = f a := by
  rw [← bind_pure_comp, bind_pure_eq_ok]

def Succeeds (x : Except ε α) : Prop := ∃ a, x = .ok a

@[simp] theorem succeeds_ok (a : α) : Succeeds (Except.ok a : Except ε α) := ⟨a, rfl⟩

/-- The program returned a value that passes a check. -/
def passes (x : Except ε α) (check : α → Bool) : Bool :=
  match x with
  | .ok a => check a
  | .error _ => false

theorem exists_of_passes {x : Except ε α} {check : α → Bool} (h : passes x check = true) :
    ∃ a, x = .ok a ∧ check a = true := by
  cases x with
  | error e => cases h
  | ok a => exact ⟨a, rfl, h⟩

theorem eq_ok_of_passes [DecidableEq α] {x : Except ε α} {a : α}
    (h : passes x (fun value => decide (value = a)) = true) : x = .ok a := by
  obtain ⟨value, hx, hvalue⟩ := exists_of_passes h
  rw [hx, of_decide_eq_true hvalue]

def fault : Except ε α → Option ε
  | .ok _ => none
  | .error e => some e

instance decidableForallOk (x : Except ε α) (p : α → Prop) [DecidablePred p] :
    Decidable (∀ a, x = .ok a → p a) :=
  match x with
  | .error _ => .isTrue fun _ h => by cases h
  | .ok a => decidable_of_iff (p a) ⟨fun ha _ h => Except.ok.inj h ▸ ha, fun h => h a rfl⟩

/-! ### Faults that cannot happen -/

def Avoids (bad : ε → Prop) (x : Except ε α) : Prop := ∀ e, x = .error e → ¬bad e

variable {bad : ε → Prop}

theorem avoids_ok (a : α) : Avoids bad (Except.ok a : Except ε α) := by
  intro e h
  cases h

theorem avoids_pure (a : α) : Avoids bad (pure a : Except ε α) := avoids_ok a

theorem avoids_error {e : ε} (h : ¬bad e) : Avoids bad (Except.error e : Except ε α) := by
  intro e' he
  cases he
  exact h

theorem avoids_require {condition : Prop} [Decidable condition] {fault : ε}
    (h : ¬condition → ¬bad fault) : Avoids bad (require condition fault) := by
  intro e he
  obtain ⟨hc, rfl⟩ := require_eq_error.mp he
  exact h hc

theorem Avoids.mono {worse : ε → Prop} {x : Except ε α} (h : Avoids worse x)
    (hbad : ∀ e, bad e → worse e) : Avoids bad x :=
  fun e he hb => h e he (hbad e hb)

theorem Avoids.bind {x : Except ε α} {f : α → Except ε β} (hx : Avoids bad x)
    (hf : ∀ a, x = .ok a → Avoids bad (f a)) : Avoids bad (x >>= f) := by
  intro e he
  rcases bind_eq_error.mp he with h | ⟨a, ha, h⟩
  · exact hx e h
  · exact hf a ha e h

theorem avoids_ite {condition : Prop} [Decidable condition] {x y : Except ε α}
    (hx : condition → Avoids bad x) (hy : ¬condition → Avoids bad y) :
    Avoids bad (if condition then x else y) := by
  split
  · exact hx ‹_›
  · exact hy ‹_›

/-! ### What is returned -/

def Ensures (good : α → Prop) (x : Except ε α) : Prop := ∀ a, x = .ok a → good a

section Ensures

variable {good : α → Prop} {good' : β → Prop} {x y : Except ε α} {f : α → Except ε β}

theorem ensures_pure {a : α} (h : good a) : Ensures good (pure a : Except ε α) := by
  intro b hb
  obtain rfl := pure_eq_ok.mp hb
  exact h

theorem ensures_error (e : ε) : Ensures good (Except.error e : Except ε α) := by
  intro a ha
  cases ha

theorem Ensures.bind (hx : Ensures good x) (hf : ∀ a, good a → Ensures good' (f a)) :
    Ensures good' (x >>= f) := by
  intro b hb
  obtain ⟨a, ha, hb⟩ := bind_eq_ok.mp hb
  exact hf a (hx a ha) b hb

theorem ensures_skip (hf : ∀ a, x = .ok a → Ensures good' (f a)) : Ensures good' (x >>= f) := by
  intro b hb
  obtain ⟨a, ha, hb⟩ := bind_eq_ok.mp hb
  exact hf a ha b hb

theorem Ensures.map {g : α → β} (hx : Ensures good x) (hg : ∀ a, good a → good' (g a)) :
    Ensures good' (g <$> x) := by
  intro b hb
  obtain ⟨a, ha, rfl⟩ := map_eq_ok.mp hb
  exact hg a (hx a ha)

theorem ensures_ite {condition : Prop} [Decidable condition] (hx : condition → Ensures good x)
    (hy : ¬condition → Ensures good y) : Ensures good (if condition then x else y) := by
  split
  · exact hx ‹_›
  · exact hy ‹_›

end Ensures

/-! ### Loops over a list of arguments -/

theorem foldlM_preserves {body : σ → α → Except ε σ} {inv : σ → Prop} (xs : List α)
    (hstep : ∀ s a s', a ∈ xs → inv s → body s a = .ok s' → inv s') :
    ∀ s s', inv s → xs.foldlM body s = .ok s' → inv s' := by
  induction xs with
  | nil =>
    intro s s' hs h
    cases pure_eq_ok.mp h
    exact hs
  | cons x xs ih =>
    intro s s' hs h
    rw [List.foldlM_cons] at h
    obtain ⟨m, hm, h⟩ := bind_eq_ok.mp h
    have hrest := ih fun s a s' ha => hstep s a s' (List.mem_cons_of_mem x ha)
    exact hrest m s' (hstep s x m List.mem_cons_self hs hm) h

theorem ensures_foldlM {body : σ → α → Except ε σ} {inv : σ → Prop} (xs : List α)
    (hbody : ∀ s a, inv s → Ensures inv (body s a)) {s : σ} (hs : inv s) :
    Ensures inv (xs.foldlM body s) :=
  fun s' => foldlM_preserves xs (fun m a m' _ hm hstep => hbody m a hm m' hstep) s s' hs

theorem foldlM_avoids {body : σ → α → Except ε σ} (inv : σ → Prop) (xs : List α)
    (hstep : ∀ s a s', a ∈ xs → inv s → body s a = .ok s' → inv s')
    (havoid : ∀ s a, a ∈ xs → inv s → Avoids bad (body s a)) :
    ∀ s, inv s → Avoids bad (xs.foldlM body s) := by
  induction xs with
  | nil => exact fun s _ => avoids_pure s
  | cons x xs ih =>
    intro s hs
    rw [List.foldlM_cons]
    refine (havoid s x List.mem_cons_self hs).bind fun m hm => ?_
    apply ih
    · exact fun s a s' ha => hstep s a s' (List.mem_cons_of_mem x ha)
    · exact fun s a ha => havoid s a (List.mem_cons_of_mem x ha)
    · exact hstep s x m List.mem_cons_self hs hm

end Outcome
