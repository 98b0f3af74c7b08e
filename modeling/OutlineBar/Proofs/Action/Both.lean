/-
Two actions side by side.

Two actions, each started in a state of its own, may both return, answer the same, and leave
states that are related.  `Both` says so, and its rules follow the text of the actions.  With
the same action on both sides and equal states it says no more than that the action returns.
-/
import OutlineBar.Action

namespace OutlineBar.Action

variable {σ τ α β : Type}

/-- Whether both actions return the same and leave states related by `Q`. -/
def Both (act : Action σ α) (act' : Action τ α) (s : σ) (t : τ) (Q : α → σ → τ → Prop) : Prop :=
  ∃ a s' t', act s = .ok a s' ∧ act' t = .ok a t' ∧ Q a s' t'

namespace Both

variable {act : Action σ α} {act' : Action τ α} {s : σ} {t : τ} {Q : α → σ → τ → Prop}

theorem pure {a : α} (h : Q a s t) :
    Both (Pure.pure a : Action σ α) (Pure.pure a : Action τ α) s t Q := ⟨a, s, t, rfl, rfl, h⟩

theorem imp {Q' : α → σ → τ → Prop} (h : Both act act' s t Q)
    (weaker : ∀ a s' t', Q a s' t' → Q' a s' t') : Both act act' s t Q' := by
  obtain ⟨a, s', t', first, second, related⟩ := h
  exact ⟨a, s', t', first, second, weaker a s' t' related⟩

theorem bind {next : α → Action σ β} {next' : α → Action τ β} {Q' : β → σ → τ → Prop}
    (h : Both act act' s t Q)
    (rest : ∀ a s' t', Q a s' t' → Both (next a) (next' a) s' t' Q') :
    Both (act >>= next) (act' >>= next') s t Q' := by
  obtain ⟨a, s', t', first, second, related⟩ := h
  obtain ⟨b, s'', t'', third, fourth, related'⟩ := rest a s' t' related
  refine ⟨b, s'', t'', ?_, ?_, related'⟩
  · rw [bind_apply, first]
    exact third
  · rw [bind_apply, second]
    exact fourth

/-- The rule for actions that begin by reading their states. -/
theorem get_bind {next : σ → Action σ β} {next' : τ → Action τ β} {Q : β → σ → τ → Prop}
    (h : Both (next s) (next' t) s t Q) :
    Both (MonadState.get >>= next) (MonadState.get >>= next') s t Q := h

theorem modify {change : σ → σ} {change' : τ → τ} {Q : PUnit → σ → τ → Prop}
    (h : Q ⟨⟩ (change s) (change' t)) :
    Both (modify change : Action σ PUnit) (modify change' : Action τ PUnit) s t Q :=
  ⟨⟨⟩, change s, change' t, rfl, rfl, h⟩

theorem zoom {σ' τ' : Type} {view : σ' → σ} {put : σ → σ' → σ'} {view' : τ' → τ}
    {put' : τ → τ' → τ'} {s : σ'} {t : τ'} {Q : α → σ' → τ' → Prop}
    (h : Both act act' (view s) (view' t) fun a s' t' => Q a (put s' s) (put' t' t)) :
    Both (zoom view put act) (zoom view' put' act') s t Q := by
  obtain ⟨a, s', t', first, second, related⟩ := h
  refine ⟨a, put s' s, put' t' t, ?_, ?_, related⟩
  · rw [zoom_apply, first]
  · rw [zoom_apply, second]

end Both

end OutlineBar.Action
