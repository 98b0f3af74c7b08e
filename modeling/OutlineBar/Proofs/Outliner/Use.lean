/-
Using a shared outliner.

Attaching a window parses with its outliner, and draining it takes completions from its queue
there.  Windows that share an outliner but not a queue do not notice each other: uses can be
interchanged, and what a window sees of the outliner, `SameFor`, is not changed by the uses of
others.
-/
import OutlineBar.Outliner.Basic

namespace OutlineBar

/-- What the operations of a window do to its outliner. -/
inductive OutlinerUse where
  | parse
  | take (id : ListenerId)
  deriving DecidableEq

namespace Broadcast

/-- The broadcast after a listener took its oldest completion, if there is one. -/
def taken (id : ListenerId) (b : Broadcast) : Broadcast :=
  match b.take? id with
  | some (_, b') => b'
  | none => b

theorem taken_eq (id : ListenerId) (b : Broadcast) :
    b.taken id =
      match b.queue id with
      | [] => b
      | _ :: rest => b.update id fun l => { l with queue := rest } := by
  unfold taken take?
  cases b.queue id <;> rfl

theorem queue_taken_of_ne {id id' : ListenerId} (ne : id' ≠ id) (b : Broadcast) :
    (b.taken id).queue id' = b.queue id' := by
  unfold taken
  cases result : b.take? id with
  | none => rfl
  | some next => exact queue_take_of_ne ne result

theorem queue_taken_self (id : ListenerId) (b : Broadcast) :
    (b.taken id).queue id = (b.queue id).tail := by
  unfold taken
  cases result : b.take? id with
  | none =>
    unfold take? at result
    cases queued : b.queue id with
    | nil => rfl
    | cons completion rest =>
      rw [queued] at result
      cases result
  | some next =>
    rw [queue_take_self result]
    rfl

/-- Changes of different listeners that keep their names. -/
theorem update_comm {id id' : ListenerId} (ne : id' ≠ id) (change change' : Listener → Listener)
    (same : ∀ l, (change l).id = l.id) (same' : ∀ l, (change' l).id = l.id) (b : Broadcast) :
    (b.update id change).update id' change' = (b.update id' change').update id change := by
  have pointwise (l : Listener) :
      (if (if l.id = id then change l else l).id = id' then
        change' (if l.id = id then change l else l) else if l.id = id then change l else l) =
      if (if l.id = id' then change' l else l).id = id then
        change (if l.id = id' then change' l else l) else if l.id = id' then change' l else l := by
    by_cases e : l.id = id
    · have other : l.id ≠ id' := fun e' => ne (e'.symm.trans e)
      simp [e, same, ne.symm]
    · by_cases e' : l.id = id'
      · simp [e', same', ne]
      · simp [e, e']
  unfold update
  simp only [List.map_map, mk.injEq, and_true]
  exact List.map_congr_left fun l _ => pointwise l

theorem taken_comm (id id' : ListenerId) (b : Broadcast) :
    (b.taken id).taken id' = (b.taken id').taken id := by
  by_cases same : id' = id
  · rw [same]
  · rw [taken_eq id' (b.taken id), taken_eq id (b.taken id'), queue_taken_of_ne same,
      queue_taken_of_ne (Ne.symm same), taken_eq id b, taken_eq id' b]
    cases b.queue id with
    | nil => cases b.queue id' <;> rfl
    | cons completion rest =>
      cases b.queue id' with
      | nil => rfl
      | cons completion' rest' =>
        exact update_comm same (fun l => { l with queue := rest })
          (fun l => { l with queue := rest' }) (fun _ => rfl) (fun _ => rfl) b

end Broadcast

namespace Outliner

/-- An outliner after it was used.  What the host parses is not noted here. -/
def use : OutlinerUse → Outliner → Outliner
  | .parse, hosted broadcast => hosted broadcast
  | .parse, background service => background { service with started := service.started + 1 }
  | .take id, o => o.withBroadcast (o.broadcast.taken id)

theorem use_comm (u v : OutlinerUse) (o : Outliner) : (o.use u).use v = (o.use v).use u := by
  cases u with
  | parse => cases v <;> cases o <;> rfl
  | take id =>
    cases v with
    | parse => cases o <;> rfl
    | take id' =>
      cases o with
      | hosted b => exact congrArg hosted (b.taken_comm id id')
      | background service =>
        exact congrArg (fun broadcast => background { service with broadcast })
          (service.broadcast.taken_comm id id')

/-- An outliner after it was used several times. -/
def useAll (uses : List OutlinerUse) (o : Outliner) : Outliner := uses.foldl (fun o u => o.use u) o

theorem useAll_concat (uses : List OutlinerUse) (u : OutlinerUse) (o : Outliner) :
    o.useAll (uses ++ [u]) = (o.useAll uses).use u := by
  unfold useAll
  rw [List.foldl_append]
  rfl

theorem useAll_comm (uses uses' : List OutlinerUse) (o : Outliner) :
    (o.useAll uses).useAll uses' = (o.useAll uses').useAll uses := by
  induction uses generalizing o with
  | nil => rfl
  | cons u rest ih =>
    have past (uses : List OutlinerUse) (o : Outliner) :
        (o.use u).useAll uses = (o.useAll uses).use u := by
      induction uses generalizing o with
      | nil => rfl
      | cons v more ih =>
        show ((o.use u).use v).useAll more = _
        rw [use_comm]
        exact ih _
    show ((o.use u).useAll rest).useAll uses' = ((o.useAll uses').use u).useAll rest
    rw [ih, past uses' o]

/-! ## What a window sees of its outliner -/

/-- Whether two outliners are the same for a listener: both are parsed with alike, and its queue
is the same. -/
structure SameFor (id : ListenerId) (o o' : Outliner) : Prop where
  kind : match o, o' with
    | hosted _, hosted _ => True
    | background service, background service' => service'.grammar = service.grammar
    | _, _ => False
  queue : o'.broadcast.queue id = o.broadcast.queue id

namespace SameFor

variable {id : ListenerId} {o o' o'' : Outliner}

theorem refl (o : Outliner) : SameFor id o o := ⟨by cases o <;> trivial, rfl⟩

theorem trans (h : SameFor id o o') (h' : SameFor id o' o'') : SameFor id o o'' := by
  refine ⟨?_, h'.queue.trans h.queue⟩
  obtain ⟨kind, -⟩ := h
  obtain ⟨kind', -⟩ := h'
  cases o <;> cases o' <;> cases o''
  all_goals first
    | exact kind.elim
    | exact kind'.elim
    | exact kind'.trans kind
    | trivial

theorem hosted {b : Broadcast} (h : SameFor id (hosted b) o') : ∃ b', o' = .hosted b' := by
  cases o' with
  | hosted b' => exact ⟨b', rfl⟩
  | background service => exact h.kind.elim

theorem background {service : Service} (h : SameFor id (background service) o') :
    ∃ service', o' = .background service' ∧ service'.grammar = service.grammar := by
  cases o' with
  | hosted b' => exact h.kind.elim
  | background service' => exact ⟨service', rfl, h.kind⟩

end SameFor

theorem broadcast_withBroadcast (o : Outliner) (b : Broadcast) :
    (o.withBroadcast b).broadcast = b := by
  cases o <;> rfl

/-- Using an outliner for another window makes no difference. -/
theorem sameFor_use {id : ListenerId} {u : OutlinerUse} (other : u ≠ .take id) (o : Outliner) :
    SameFor id o (o.use u) := by
  cases u with
  | parse => cases o <;> exact ⟨by trivial, rfl⟩
  | take id' =>
    have ne : id ≠ id' := fun e => other (e ▸ rfl)
    refine ⟨by cases o <;> trivial, ?_⟩
    show ((o.withBroadcast _).broadcast).queue id = _
    rw [broadcast_withBroadcast]
    exact Broadcast.queue_taken_of_ne ne _

theorem sameFor_useAll {id : ListenerId} {uses : List OutlinerUse}
    (other : ∀ u ∈ uses, u ≠ .take id) (o : Outliner) : SameFor id o (o.useAll uses) := by
  induction uses generalizing o with
  | nil => exact .refl o
  | cons u rest ih =>
    have first := sameFor_use (other u List.mem_cons_self) o
    exact first.trans (ih (fun v mem => other v (List.mem_cons_of_mem _ mem)) _)

/-- What is the same for a window stays so when the window uses it. -/
theorem SameFor.use {id : ListenerId} {o o' : Outliner} (h : SameFor id o o') (u : OutlinerUse) :
    SameFor id (o.use u) (o'.use u) := by
  obtain ⟨kind, queue⟩ := h
  cases u with
  | parse => cases o <;> cases o' <;> first | exact kind.elim | exact ⟨kind, queue⟩
  | take id' =>
    refine ⟨by cases o <;> cases o' <;> exact kind, ?_⟩
    show (o'.withBroadcast _).broadcast.queue id = (o.withBroadcast _).broadcast.queue id
    rw [broadcast_withBroadcast, broadcast_withBroadcast]
    by_cases same : id = id'
    · subst same
      rw [Broadcast.queue_taken_self, Broadcast.queue_taken_self, queue]
    · rw [Broadcast.queue_taken_of_ne same, Broadcast.queue_taken_of_ne same, queue]

theorem eq_use_of_take {id : ListenerId} {o o' : Outliner} {completion : Completion}
    (taken : o.take? id = some (completion, o')) : o' = o.use (.take id) := by
  obtain ⟨next, result, e⟩ := Option.map_eq_some_iff.mp taken
  cases e
  show _ = o.withBroadcast (o.broadcast.taken id)
  unfold Broadcast.taken
  rw [result]

/-- A window takes the same completion from outliners that are the same for it. -/
theorem SameFor.take {id : ListenerId} {o o' next : Outliner} (h : SameFor id o o')
    {completion : Completion} (taken : o.take? id = some (completion, next)) :
    o'.take? id = some (completion, o'.use (.take id)) := by
  obtain ⟨⟨c, b⟩, result, e⟩ := Option.map_eq_some_iff.mp taken
  cases e
  have queued := Broadcast.queue_take_self result
  rw [← h.queue] at queued
  obtain ⟨b', result'⟩ := Broadcast.exists_take queued
  have taken' : o'.take? id = some (completion, o'.withBroadcast b') := by
    unfold Outliner.take?
    rw [result']
    rfl
  rw [taken', ← eq_use_of_take taken']

end Outliner

end OutlineBar
