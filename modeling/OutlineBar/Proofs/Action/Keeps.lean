/-
Predicates that actions keep.

An action keeps a predicate if the state it leaves satisfies the predicate whenever the
state it started in did, whether it returned or panicked.  What is kept by two actions
is kept by one after the other, so a predicate on states is shown for an operation by
going through the operation once.
-/
import OutlineBar.Action

namespace OutlineBar.Action

variable {σ τ α β : Type}

/-- The state that an action leaves. -/
def after (act : Action σ α) (s : σ) : σ :=
  match act s with
  | .ok _ s' => s'
  | .error _ s' => s'

theorem after_of_ok {act : Action σ α} {s s' : σ} {a : α} (h : act s = .ok a s') :
    act.after s = s' := by
  unfold after
  rw [h]

theorem after_of_error {act : Action σ α} {s s' : σ} {p : Panic} (h : act s = .error p s') :
    act.after s = s' := by
  unfold after
  rw [h]

/-- The panic that an action ends in, if it panics. -/
def panic? (act : Action σ α) (s : σ) : Option Panic :=
  match act s with
  | .ok _ _ => none
  | .error p _ => some p

theorem eq_error_of_panic? {act : Action σ α} {s : σ} {p : Panic} (h : panic? act s = some p) :
    act s = .error p (act.after s) := by
  unfold panic? at h
  cases e : act s with
  | ok a s' =>
    rw [e] at h
    cases h
  | error p' s' =>
    rw [e] at h
    rw [after_of_error e, Option.some.inj h]

theorem after_zoom (view : σ → τ) (put : τ → σ → σ) (act : Action τ α) (s : σ) :
    (zoom view put act).after s = put (act.after (view s)) s := by
  unfold after
  rw [zoom_apply]
  cases act (view s) <;> rfl

theorem zoom_of_ok (view : σ → τ) (put : τ → σ → σ) {act : Action τ α} {s : σ} {t : τ} {a : α}
    (h : act (view s) = .ok a t) : zoom view put act s = .ok a (put t s) := by
  rw [zoom_apply, h]

theorem zoom_of_error (view : σ → τ) (put : τ → σ → σ) {act : Action τ α} {s : σ} {t : τ}
    {p : Panic} (h : act (view s) = .error p t) : zoom view put act s = .error p (put t s) := by
  rw [zoom_apply, h]

theorem zoom_eq_ok {view : σ → τ} {put : τ → σ → σ} {act : Action τ α} {s s' : σ} {a : α}
    (h : zoom view put act s = .ok a s') : ∃ t, act (view s) = .ok a t ∧ s' = put t s := by
  rw [zoom_apply] at h
  cases first : act (view s) with
  | ok a' t =>
    rw [first] at h
    cases h
    exact ⟨t, rfl, rfl⟩
  | error p t =>
    rw [first] at h
    cases h

/-- A sequence that returns consists of actions that return. -/
theorem bind_eq_ok {act : Action σ α} {next : α → Action σ β} {s s'' : σ} {b : β}
    (h : (act >>= next) s = .ok b s'') : ∃ a s', act s = .ok a s' ∧ next a s' = .ok b s'' := by
  rw [bind_apply] at h
  cases first : act s with
  | ok a s' =>
    rw [first] at h
    exact ⟨a, s', rfl, h⟩
  | error p s' =>
    rw [first] at h
    cases h

theorem bind_of_ok {act : Action σ α} {s s' : σ} {a : α} (h : act s = .ok a s')
    (next : α → Action σ β) : (act >>= next) s = next a s' := by
  rw [bind_apply, h]

theorem bind_of_error {act : Action σ α} {s s' : σ} {p : Panic} (h : act s = .error p s')
    (next : α → Action σ β) : (act >>= next) s = .error p s' := by
  rw [bind_apply, h]

theorem bind_eq_error {act : Action σ α} {next : α → Action σ β} {s s'' : σ} {p : Panic}
    (h : (act >>= next) s = .error p s'') :
    act s = .error p s'' ∨ ∃ a s', act s = .ok a s' ∧ next a s' = .error p s'' := by
  rw [bind_apply] at h
  cases first : act s with
  | ok a s' =>
    rw [first] at h
    exact .inr ⟨a, s', rfl, h⟩
  | error p' s' =>
    rw [first] at h
    cases h
    exact .inl rfl

theorem onPanic_of_ok {act : Action σ α} {s s' : σ} {a : α} (h : act s = .ok a s')
    (cleanUp : Action σ Unit) : onPanic act cleanUp s = .ok a s' := by
  unfold onPanic
  rw [h]

/-- A panic goes on from the state that the clean-up leaves. -/
theorem onPanic_of_error {act : Action σ α} {s s' : σ} {p : Panic} (h : act s = .error p s')
    (cleanUp : Action σ Unit) : onPanic act cleanUp s = .error p (cleanUp.after s') := by
  unfold onPanic after
  rw [h]
  dsimp only
  cases cleanUp s' <;> rfl

/-- Whether the state that an action leaves satisfies `P` whenever the state before did. -/
def Keeps (P : σ → Prop) (act : Action σ α) : Prop := ∀ s, P s → P (act.after s)

variable {P : σ → Prop}

namespace Keeps

theorem pure (a : α) : Keeps P (Pure.pure a : Action σ α) := fun _ h => h

theorem ofExcept (result : Except Panic α) : Keeps P (Action.ofExcept result : Action σ α) := by
  cases result <;> exact fun _ h => h

theorem modify {change : σ → σ} (h : ∀ s, P s → P (change s)) :
    Keeps P (modify change : Action σ PUnit) := fun s hs => h s hs

/-- The rule for sequences whose first action keeps more than the whole does. -/
theorem after_bind_of_imp {Q : σ → Prop} {act : Action σ α} {next : α → Action σ β} {s : σ}
    (first : P (act.after s)) (weaker : ∀ s', P s' → Q s')
    (rest : ∀ a s', act s = .ok a s' → P s' → Q ((next a).after s')) :
    Q ((act >>= next).after s) := by
  unfold after
  rw [bind_apply]
  cases h : act s with
  | ok a s' =>
    rw [after_of_ok h] at first
    exact rest a s' h first
  | error p s' =>
    rw [after_of_error h] at first
    exact weaker s' first

/-- The rule for sequences that remembers where they started and what the first action
answered. -/
theorem after_bind {act : Action σ α} {next : α → Action σ β} {s : σ} (first : P (act.after s))
    (rest : ∀ a s', act s = .ok a s' → P s' → P ((next a).after s')) :
    P ((act >>= next).after s) := after_bind_of_imp first (fun _ h => h) rest

theorem bind {act : Action σ α} {next : α → Action σ β} (first : Keeps P act)
    (rest : ∀ a, Keeps P (next a)) : Keeps P (act >>= next) :=
  fun s hs => after_bind (first s hs) fun a s' _ hs' => rest a s' hs'

/-- The rule for actions that begin by reading the state. -/
theorem get_bind {next : σ → Action σ β} (rest : ∀ s, P s → P ((next s).after s)) :
    Keeps P (MonadState.get >>= next) := fun s hs => rest s hs

theorem attempt {act : Action σ α} (h : Keeps P act) : Keeps P (Action.attempt act) := by
  intro s hs
  have kept := h s hs
  unfold after at kept ⊢
  rw [attempt_apply]
  cases e : act s <;> rw [e] at kept <;> exact kept

/-- The rule for clean-ups that remembers where they started. -/
theorem after_onPanic {act : Action σ α} {cleanUp : Action σ Unit} {s : σ} (first : P (act.after s))
    (clean : Keeps P cleanUp) : P ((Action.onPanic act cleanUp).after s) := by
  cases e : act s with
  | ok a s' =>
    rw [after_of_ok (onPanic_of_ok e cleanUp), ← after_of_ok e]
    exact first
  | error p s' =>
    rw [after_of_error e] at first
    rw [after_of_error (onPanic_of_error e cleanUp)]
    exact clean s' first

theorem zoom {view : σ → τ} {put : τ → σ → σ} {act : Action τ α}
    (h : ∀ s, P s → P (put (act.after (view s)) s)) : Keeps P (Action.zoom view put act) := by
  intro s hs
  rw [after_zoom]
  exact h s hs

theorem ite {c : Prop} [Decidable c] {act other : Action σ α} (h : c → Keeps P act)
    (h' : ¬ c → Keeps P other) : Keeps P (if c then act else other) := by
  by_cases hc : c
  · rw [if_pos hc]
    exact h hc
  · rw [if_neg hc]
    exact h' hc

end Keeps

end OutlineBar.Action
