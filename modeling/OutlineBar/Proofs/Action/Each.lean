/-
One action for each item of a list.

`List.mapM` performs an action for every item, in order, and answers what they answered.  A run
that returns is a run of the first item and a run of the rest.  A panic ends a run, and
`mapM_eq_error` says where it stood.
-/
import OutlineBar.Proofs.Action.Keeps

namespace OutlineBar.Action

variable {σ α β ι : Type} {act : ι → Action σ α}

theorem mapM_cons_eq_ok {item : ι} {rest : List ι} {answers : List α} {s s' : σ}
    (h : (item :: rest).mapM act s = .ok answers s') :
    ∃ a more s₁, answers = a :: more ∧ act item s = .ok a s₁ ∧
      rest.mapM act s₁ = .ok more s' := by
  rw [List.mapM_cons] at h
  obtain ⟨a, s₁, first, h⟩ := bind_eq_ok h
  obtain ⟨more, s₂, others, h⟩ := bind_eq_ok h
  cases h
  exact ⟨a, more, s₁, rfl, first, others⟩

theorem mapM_cons_of_ok {item : ι} {rest : List ι} {a : α} {more : List α} {s s₁ s' : σ}
    (first : act item s = .ok a s₁) (others : rest.mapM act s₁ = .ok more s') :
    (item :: rest).mapM act s = .ok (a :: more) s' := by
  rw [List.mapM_cons, bind_of_ok first, bind_of_ok others]
  rfl

theorem mapM_map_of_ok {act' : ι → Action σ β} {make : α → β}
    (each : ∀ item, act' item = do return make (← act item)) {items : List ι} {answers : List α}
    {s s' : σ} (done : items.mapM act s = .ok answers s') :
    items.mapM act' s = .ok (answers.map make) s' := by
  induction items generalizing s answers with
  | nil =>
    cases done
    rfl
  | cons item rest ih =>
    obtain ⟨a, more, s₁, rfl, first, others⟩ := mapM_cons_eq_ok done
    have made : act' item s = .ok (make a) s₁ := by
      rw [each, bind_of_ok first]
      rfl
    exact mapM_cons_of_ok made (ih others)

/-- The items before the one that panicked were done, and those after it were not begun. -/
theorem mapM_eq_error {items : List ι} {s s' : σ} {p : Panic}
    (h : items.mapM act s = .error p s') :
    ∃ before item after answers s₁, items = before ++ item :: after ∧
      before.mapM act s = .ok answers s₁ ∧ act item s₁ = .error p s' := by
  induction items generalizing s with
  | nil => cases h
  | cons item rest ih =>
    rw [List.mapM_cons] at h
    rcases bind_eq_error h with panicked | ⟨a, s₁, first, h⟩
    · exact ⟨[], item, rest, [], s, rfl, rfl, panicked⟩
    · rcases bind_eq_error h with panicked | ⟨more, s₂, -, h⟩
      · obtain ⟨before, item', after, answers, s₂, split, done, last⟩ := ih panicked
        refine ⟨item :: before, item', after, a :: answers, s₂, ?_, ?_, last⟩
        · rw [split, List.cons_append]
        · exact mapM_cons_of_ok first done
      · cases h

theorem Keeps.mapM {P : σ → Prop} {items : List ι} (each : ∀ item ∈ items, Keeps P (act item)) :
    Keeps P (items.mapM act) := by
  induction items with
  | nil => exact Keeps.pure _
  | cons item rest ih =>
    rw [List.mapM_cons]
    refine Keeps.bind (each item List.mem_cons_self) fun _ => ?_
    refine Keeps.bind (ih fun other mem => each other (List.mem_cons_of_mem _ mem)) fun _ => ?_
    exact Keeps.pure _

end OutlineBar.Action
