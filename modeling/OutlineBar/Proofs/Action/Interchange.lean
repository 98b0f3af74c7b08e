/-
Actions whose order does not matter.

Two actions are `Apart` if neither notices what the other did.  The actions of a family may be
apart in a weaker sense, only from states that are good and only up to what a `core` of the
state shows; `Orderless` says that two of them that follow each other can be interchanged in
this sense.  Then the whole family can be performed in any order, which is `Orderless.perm`,
by induction on the permutation.
-/
import Mathlib.Data.List.Nodup
import OutlineBar.Proofs.Action.Each

namespace OutlineBar.Action

variable {σ τ α β ι ξ : Type}

/-! ## Two actions -/

/-- Whether a change of the state passes through an action: it can as well be made afterwards. -/
def Through (change : σ → σ) (act : Action σ α) : Prop :=
  ∀ s, act (change s) =
    match act s with
    | .ok a s' => .ok a (change s')
    | .error p s' => .error p (change s')

namespace Through

variable {change other : σ → σ} {act : Action σ α} {s s' : σ} {a : α}

theorem ok (h : Through change act) (returned : act s = .ok a s') :
    act (change s) = .ok a (change s') := by
  rw [h, returned]

theorem after (h : Through change act) (s : σ) : act.after (change s) = change (act.after s) := by
  unfold Action.after
  rw [h]
  cases act s <;> rfl

theorem id : Through (fun s => s) act := by
  intro s
  cases act s <;> rfl

theorem comp (h : Through change act) (h' : Through other act) :
    Through (fun s => other (change s)) act := by
  intro s
  rw [h', h]
  cases act s <;> rfl

theorem bind {next : α → Action σ β} (h : Through change act)
    (rest : ∀ a, Through change (next a)) : Through change (act >>= next) := by
  intro s
  rw [bind_apply, bind_apply, h]
  cases act s with
  | ok a s' => exact rest a s'
  | error p s' => rfl

theorem attempt (h : Through change act) : Through change (attempt act) := by
  intro s
  rw [attempt_apply, attempt_apply, h]
  cases act s <;> rfl

end Through

/-- Whether neither of two actions notices what the other did. -/
structure Apart (act : Action σ α) (act' : Action σ β) : Prop where
  left : Through act'.after act
  right : Through act.after act'

namespace Apart

variable {act : Action σ α} {act' : Action σ β}

theorem symm (h : Apart act act') : Apart act' act := ⟨h.right, h.left⟩

/-- Actions that are apart can be interchanged. -/
theorem swap (h : Apart act act') {s s₁ s₂ : σ} {a : α} {b : β} (first : act s = .ok a s₁)
    (second : act' s₁ = .ok b s₂) : ∃ t, act' s = .ok b t ∧ act t = .ok a s₂ := by
  have moved : act' s₁ = match act' s with
      | .ok b t => .ok b (act.after t)
      | .error p t => .error p (act.after t) := by
    rw [← after_of_ok first]
    exact h.right s
  cases early : act' s with
  | error p t =>
    rw [early, second] at moved
    cases moved
  | ok b' t =>
    rw [early, second] at moved
    cases moved
    refine ⟨t, rfl, ?_⟩
    have late := h.left.ok first
    rw [after_of_ok early, after_of_ok second] at late
    exact late

end Apart

/-! ## A family of actions -/

/-- A family of actions, one for each item, those of which that are a `member` return from good
states.  What an action answers and what it does to the `core` of a state depends on the core
only, and actions of items that are apart can be interchanged as far as the core goes. -/
structure Orderless (act : ι → Action σ α) (core : σ → τ) (good : σ → Prop) (member : ι → Prop)
    (apart : ι → ι → Prop) : Prop where
  returns : ∀ {i s}, member i → good s → ∃ a s', act i s = .ok a s' ∧ good s'
  congr : ∀ {i s t a s'}, member i → core t = core s → good s → act i s = .ok a s' →
    ∃ t', act i t = .ok a t' ∧ core t' = core s'
  swap : ∀ {i j s a s₁ b s₂}, member i → member j → apart i j → good s → act i s = .ok a s₁ →
    act j s₁ = .ok b s₂ → ∃ t₁ t₂, act j s = .ok b t₁ ∧ act i t₁ = .ok a t₂ ∧ core t₂ = core s₂
  symm : ∀ {i j}, apart i j → apart j i

namespace Orderless

variable {act : ι → Action σ α} {core : σ → τ} {good : σ → Prop} {member : ι → Prop}
  {apart : ι → ι → Prop} (h : Orderless act core good member apart)
include h

theorem good_of_ok {i : ι} {s s' : σ} {a : α} (mem : member i) (before : good s)
    (done : act i s = .ok a s') : good s' := by
  obtain ⟨b, t, returned, after⟩ := h.returns mem before
  cases returned.symm.trans done
  exact after

theorem mapM_returns {items : List ι} (members : ∀ i ∈ items, member i) {s : σ} (before : good s) :
    ∃ answers s', items.mapM act s = .ok answers s' := by
  induction items generalizing s with
  | nil => exact ⟨[], s, rfl⟩
  | cons i rest ih =>
    obtain ⟨a, s₁, first, good₁⟩ := h.returns (members i List.mem_cons_self) before
    obtain ⟨answers, s', others⟩ := ih (fun j mem => members j (List.mem_cons_of_mem _ mem)) good₁
    exact ⟨a :: answers, s', mapM_cons_of_ok first others⟩

theorem mapM_congr {items : List ι} (members : ∀ i ∈ items, member i) {s t s' : σ}
    {answers : List α} (same : core t = core s) (before : good s)
    (done : items.mapM act s = .ok answers s') :
    ∃ t', items.mapM act t = .ok answers t' ∧ core t' = core s' := by
  induction items generalizing s t answers with
  | nil =>
    cases done
    exact ⟨t, rfl, same⟩
  | cons i rest ih =>
    obtain ⟨a, more, s₁, rfl, first, others⟩ := mapM_cons_eq_ok done
    have mem := members i List.mem_cons_self
    obtain ⟨t₁, first', same₁⟩ := h.congr mem same before first
    obtain ⟨t', others', same'⟩ := ih (fun j mem => members j (List.mem_cons_of_mem _ mem)) same₁
      (h.good_of_ok mem before first) others
    exact ⟨t', mapM_cons_of_ok first' others', same'⟩

/-- Two orders of the same items come to the same as far as the core goes, and the answers are
the same but for their order. -/
theorem mapM_perm {items items' : List ι} (perm : items.Perm items')
    (members : ∀ i ∈ items, member i) (pairwise : items.Pairwise apart) {s t s' : σ}
    {answers : List α} (same : core t = core s) (before : good s)
    (done : items.mapM act s = .ok answers s') :
    ∃ answers' t', items'.mapM act t = .ok answers' t' ∧ answers.Perm answers' ∧
      core t' = core s' := by
  induction perm generalizing s t s' answers with
  | nil =>
    cases done
    exact ⟨[], t, rfl, .nil, same⟩
  | cons i _ ih =>
    obtain ⟨a, more, s₁, rfl, first, others⟩ := mapM_cons_eq_ok done
    have mem := members i List.mem_cons_self
    obtain ⟨t₁, first', same₁⟩ := h.congr mem same before first
    obtain ⟨more', t', others', perm, same'⟩ :=
      ih (fun j mem => members j (List.mem_cons_of_mem _ mem)) (List.pairwise_cons.mp pairwise).2
        same₁ (h.good_of_ok mem before first) others
    exact ⟨a :: more', t', mapM_cons_of_ok first' others', perm.cons a, same'⟩
  | swap j i rest =>
    obtain ⟨a, more, s₁, rfl, first, others⟩ := mapM_cons_eq_ok done
    obtain ⟨b, more, s₂, rfl, second, others⟩ := mapM_cons_eq_ok others
    have memI := members i List.mem_cons_self
    have memJ := members j (List.mem_cons_of_mem _ List.mem_cons_self)
    have ij : apart i j := (List.pairwise_cons.mp pairwise).1 j List.mem_cons_self
    -- Both orders are compared in `s`, and then the second one is moved from `s` to `t`.
    obtain ⟨u₁, u₂, early, late, same₂⟩ := h.swap memI memJ ij before first second
    obtain ⟨t₁, early', same₁⟩ := h.congr memJ same before early
    obtain ⟨t₂, late', same₂'⟩ := h.congr memI same₁ (h.good_of_ok memJ before early) late
    have good₂ := h.good_of_ok memJ (h.good_of_ok memI before first) second
    have later : ∀ k ∈ rest, member k := fun k mem =>
      members k (List.mem_cons_of_mem _ (List.mem_cons_of_mem _ mem))
    obtain ⟨t', others', same'⟩ := h.mapM_congr later (same₂'.trans same₂) good₂ others
    refine ⟨b :: a :: more, t', ?_, .swap b a more, same'⟩
    exact mapM_cons_of_ok early' (mapM_cons_of_ok late' others')
  | trans first _ ih ih' =>
    obtain ⟨middle, u, done₁, perm₁, same₁⟩ := ih members pairwise rfl before done
    have members' : ∀ i ∈ _, member i := fun i mem => members i (first.mem_iff.mpr mem)
    have pairwise' := (first.pairwise_iff h.symm).mp pairwise
    obtain ⟨answers', t', done₂, perm₂, same₂⟩ := ih' members' pairwise' same before done₁
    exact ⟨answers', t', done₂, perm₁.trans perm₂, same₂.trans same₁⟩

/-- What holds of one run over nothing, and is passed on by every action from a good state, holds
of all runs. -/
theorem mapM_run {run : List ι → List α → σ → σ → Prop} (nil : ∀ s, run [] [] s s)
    (cons : ∀ {i s a s₁ rest more s'}, member i → good s → act i s = .ok a s₁ →
      run rest more s₁ s' → run (i :: rest) (a :: more) s s')
    {items : List ι} (members : ∀ i ∈ items, member i) {s s' : σ} {answers : List α}
    (before : good s) (done : items.mapM act s = .ok answers s') : run items answers s s' := by
  induction items generalizing s answers with
  | nil =>
    cases done
    exact nil _
  | cons i rest ih =>
    obtain ⟨a, more, s₁, rfl, first, others⟩ := mapM_cons_eq_ok done
    have mem := members i List.mem_cons_self
    have later := ih (fun j mem => members j (List.mem_cons_of_mem _ mem))
      (h.good_of_ok mem before first) others
    exact cons mem before first later

end Orderless

/-- What answers say of items that are all different is a function of the items. -/
theorem exists_of_item {item : α → ι} {own : α → List ξ} {answers : List α}
    (once : (answers.map item).Nodup) :
    ∃ calls : ι → List ξ, ∀ a ∈ answers, calls (item a) = own a := by
  classical
  refine ⟨fun i => if named : ∃ a ∈ answers, item a = i then own named.choose else [], ?_⟩
  intro a mem
  have named : ∃ b ∈ answers, item b = item a := ⟨a, mem, rfl⟩
  have same : named.choose = a :=
    List.inj_on_of_nodup_map once named.choose_spec.1 mem named.choose_spec.2
  dsimp only
  rw [dif_pos named, same]

end OutlineBar.Action
