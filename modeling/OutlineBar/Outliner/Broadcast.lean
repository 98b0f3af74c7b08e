/-
Broadcasting completions to listeners.

Each listener has a queue of its own and receives every completion published while
it is subscribed, in the order of publication.  A listener that is dropped is only
marked; the mark is acted on the next time listeners are counted or a completion
is published.  `queue` is what a listener has not taken yet.
-/
import OutlineBar.Outline.Basic

namespace OutlineBar

/-- Names a listener of one broadcast. -/
structure ListenerId where
  index : Nat
  deriving DecidableEq, Repr, Inhabited

/-- A listener with the completions it has not taken yet. -/
structure Listener where
  id : ListenerId
  isOpen : Bool := true
  queue : List Completion := []

/-- All listeners that were subscribed and not forgotten, in order of subscription. -/
structure Broadcast where
  listeners : List Listener := []
  nextIndex : Nat := 0

namespace Broadcast

instance : Inhabited Broadcast := ⟨{}⟩

def subscribe (b : Broadcast) : ListenerId × Broadcast :=
  (⟨b.nextIndex⟩, ⟨b.listeners ++ [{ id := ⟨b.nextIndex⟩ }], b.nextIndex + 1⟩)

def update (id : ListenerId) (change : Listener → Listener) (b : Broadcast) : Broadcast :=
  { b with listeners := b.listeners.map fun l => if l.id = id then change l else l }

def drop (id : ListenerId) (b : Broadcast) : Broadcast :=
  b.update id fun l => { l with isOpen := false }

/-- Forgets the listeners that were dropped. -/
def prune (b : Broadcast) : Broadcast :=
  { b with listeners := b.listeners.filter Listener.isOpen }

/-- Forgets the listeners that were dropped, and counts the others. -/
def count (b : Broadcast) : Nat × Broadcast := (b.prune.listeners.length, b.prune)

/-- Puts a completion into every queue; also answers how many there are. -/
def publish (completion : Completion) (b : Broadcast) : Nat × Broadcast :=
  let b := b.prune
  (b.listeners.length,
    { b with listeners := b.listeners.map fun l => { l with queue := l.queue ++ [completion] } })

def queue (id : ListenerId) (b : Broadcast) : List Completion :=
  match b.listeners.find? fun l => decide (l.id = id) && l.isOpen with
  | some l => l.queue
  | none => []

/-- Takes the oldest completion that a listener has not taken yet. -/
def take? (id : ListenerId) (b : Broadcast) : Option (Completion × Broadcast) :=
  match b.queue id with
  | completion :: rest => some (completion, b.update id fun l => { l with queue := rest })
  | [] => none

/-- Takes all completions that a listener has not taken yet. -/
def takeAll (id : ListenerId) (b : Broadcast) : List Completion × Broadcast :=
  (b.queue id, b.update id fun l => { l with queue := [] })

/-! ## Queues

A queue changes in three ways only: `subscribe` starts it, `publish` adds to its end,
and taking removes its front.  That a new queue is empty needs names to be given out in
order, which is what `Ordered` says. -/

/-- Whether a name is the name of a listener that was not dropped. -/
def Hears (id : ListenerId) (b : Broadcast) : Prop := ∃ l ∈ b.listeners, l.id = id ∧ l.isOpen = true

/-- Every name in use was given out. -/
def Ordered (b : Broadcast) : Prop := ∀ l ∈ b.listeners, l.id.index < b.nextIndex

def find? (id : ListenerId) (b : Broadcast) : Option Listener :=
  b.listeners.find? fun l => decide (l.id = id) && l.isOpen

theorem queue_eq (id : ListenerId) (b : Broadcast) :
    b.queue id = ((b.find? id).map Listener.queue).getD [] := by
  unfold queue
  rw [← find?]
  cases b.find? id <;> rfl

theorem isSome_find? {id : ListenerId} {b : Broadcast} : (b.find? id).isSome ↔ b.Hears id := by
  simp [find?, Hears]

/-- A change that keeps names and marks commutes with finding a listener. -/
theorem find?_map (change : Listener → Listener)
    (same : ∀ l, (change l).id = l.id ∧ (change l).isOpen = l.isOpen) (id : ListenerId)
    (listeners : List Listener) :
    (listeners.map change).find? (fun l => decide (l.id = id) && l.isOpen) =
      (listeners.find? fun l => decide (l.id = id) && l.isOpen).map change := by
  rw [List.find?_map]
  have : ((fun l : Listener => decide (l.id = id) && l.isOpen) ∘ change) =
      fun l => decide (l.id = id) && l.isOpen := by
    funext l
    simp [(same l).1, (same l).2]
  rw [this]

theorem find?_prune (id : ListenerId) (b : Broadcast) : b.prune.find? id = b.find? id := by
  unfold find? prune
  rw [List.find?_filter]
  congr 1
  funext l
  cases l.isOpen <;> simp

theorem find?_publish (id : ListenerId) (completion : Completion) (b : Broadcast) :
    (b.publish completion).2.find? id =
      (b.find? id).map fun l => { l with queue := l.queue ++ [completion] } := by
  rw [← find?_prune id b]
  exact find?_map (fun l => { l with queue := l.queue ++ [completion] })
    (fun _ => ⟨rfl, rfl⟩) id b.prune.listeners

/-- A publication reaches the end of every queue. -/
theorem queue_publish {id : ListenerId} {b : Broadcast} (hears : b.Hears id)
    (completion : Completion) :
    (b.publish completion).2.queue id = b.queue id ++ [completion] := by
  obtain ⟨l, hl⟩ := Option.isSome_iff_exists.mp (isSome_find?.mpr hears)
  rw [queue_eq, queue_eq, find?_publish, hl]
  rfl

theorem hears_publish {id : ListenerId} {b : Broadcast} (completion : Completion) :
    (b.publish completion).2.Hears id ↔ b.Hears id := by
  rw [← isSome_find?, ← isSome_find?, find?_publish, Option.isSome_map]

theorem mem_queue_publish {id : ListenerId} {b : Broadcast} {completion published : Completion}
    (h : completion ∈ (b.publish published).2.queue id) :
    completion ∈ b.queue id ∨ completion = published := by
  rw [queue_eq, find?_publish] at h
  rw [queue_eq]
  cases found : b.find? id with
  | none =>
    rw [found] at h
    exact nomatch h
  | some l =>
    rw [found] at h
    exact (List.mem_append.mp h).imp_right List.mem_singleton.mp

/-- What taking leaves of the listeners. -/
theorem find?_take {id : ListenerId} {b b' : Broadcast} {completion : Completion}
    (taken : b.take? id = some (completion, b')) (id' : ListenerId) :
    ∃ rest, b.queue id = completion :: rest ∧
      b'.find? id' =
        (b.find? id').map fun l => if l.id = id then { l with queue := rest } else l := by
  unfold take? at taken
  split at taken
  · rename_i rest queued
    cases taken
    refine ⟨rest, queued, ?_⟩
    refine find?_map (fun l => if l.id = id then { l with queue := rest } else l) ?_ _ _
    intro l
    by_cases e : l.id = id <;> simp [e]
  · cases taken

theorem id_of_find? {id : ListenerId} {b : Broadcast} {l : Listener} (found : b.find? id = some l) :
    l.id = id := by
  have := List.find?_some found
  rw [Bool.and_eq_true, decide_eq_true_eq] at this
  exact this.1

theorem exists_take {id : ListenerId} {b : Broadcast} {completion : Completion}
    {rest : List Completion} (queued : b.queue id = completion :: rest) :
    ∃ b', b.take? id = some (completion, b') := by
  unfold take?
  rw [queued]
  exact ⟨_, rfl⟩

theorem queue_take_self {id : ListenerId} {b b' : Broadcast} {completion : Completion}
    (taken : b.take? id = some (completion, b')) : b.queue id = completion :: b'.queue id := by
  obtain ⟨rest, queued, found'⟩ := find?_take taken id
  rw [queued, queue_eq id b', found']
  cases found : b.find? id with
  | none =>
    rw [queue_eq, found] at queued
    cases queued
  | some l => simp [id_of_find? found]

theorem queue_take_of_ne {id id' : ListenerId} (ne : id' ≠ id) {b b' : Broadcast}
    {completion : Completion} (taken : b.take? id = some (completion, b')) :
    b'.queue id' = b.queue id' := by
  obtain ⟨rest, -, found'⟩ := find?_take taken id'
  rw [queue_eq, queue_eq, found']
  cases found : b.find? id' with
  | none => rfl
  | some l => simp [id_of_find? found, ne]

theorem hears_take {id id' : ListenerId} {b b' : Broadcast} {completion : Completion}
    (taken : b.take? id = some (completion, b')) : b'.Hears id' ↔ b.Hears id' := by
  obtain ⟨rest, -, found'⟩ := find?_take taken id'
  rw [← isSome_find?, ← isSome_find?, found', Option.isSome_map]

theorem queue_subscribe_self {b : Broadcast} (ordered : b.Ordered) :
    b.subscribe.2.queue b.subscribe.1 = [] := by
  have absent : (b.listeners.find? fun l => decide (l.id = ⟨b.nextIndex⟩) && l.isOpen) = none := by
    rw [List.find?_eq_none]
    intro l hl
    have ne : l.id ≠ ⟨b.nextIndex⟩ := fun e => by
      have := ordered l hl
      rw [e] at this
      exact Nat.lt_irrefl _ this
    simp [ne]
  unfold queue subscribe
  simp only [List.find?_append, absent]
  simp

theorem hears_subscribe_self (b : Broadcast) : b.subscribe.2.Hears b.subscribe.1 :=
  ⟨{ id := ⟨b.nextIndex⟩ }, by simp [subscribe], rfl, rfl⟩

/-! ## Names in use -/

theorem ordered_empty : Ordered {} := by
  intro l hl
  cases hl

theorem Ordered.subscribe {b : Broadcast} (h : b.Ordered) : b.subscribe.2.Ordered := by
  intro l hl
  rcases List.mem_append.mp hl with old | new
  · exact Nat.lt_succ_of_lt (h l old)
  · rw [List.mem_singleton.mp new]
    exact Nat.lt_succ_self _

theorem Ordered.map {b : Broadcast} (h : b.Ordered) {change : Listener → Listener}
    (same : ∀ l, (change l).id = l.id) :
    Ordered { b with listeners := b.listeners.map change } := by
  intro l hl
  obtain ⟨l', hl', rfl⟩ := List.mem_map.mp hl
  rw [same]
  exact h l' hl'

theorem Ordered.update {b : Broadcast} (h : b.Ordered) (id : ListenerId)
    {change : Listener → Listener} (same : ∀ l, (change l).id = l.id) :
    (b.update id change).Ordered :=
  h.map fun l => by split <;> simp [same]

theorem Ordered.prune {b : Broadcast} (h : b.Ordered) : b.prune.Ordered :=
  fun l hl => h l (List.mem_filter.mp hl).1

theorem Ordered.publish {b : Broadcast} (h : b.Ordered) (completion : Completion) :
    (b.publish completion).2.Ordered :=
  h.prune.map fun _ => rfl

theorem Ordered.take {b b' : Broadcast} {id : ListenerId} {completion : Completion}
    (h : b.Ordered) (taken : b.take? id = some (completion, b')) : b'.Ordered := by
  unfold take? at taken
  split at taken
  · cases taken
    exact h.update id fun _ => rfl
  · cases taken

end Broadcast

end OutlineBar
