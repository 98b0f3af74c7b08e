/-
The receivers of a service, and what its loop owes them.

A `Ledger` is a chronicle with the receivers that were subscribed, and for each of them
what it was given so far and how much had been published when it came.  What the loop owes
to everybody who listens is told from the grammar alone: `announced` lists the outlines that
the grammar answered along turns while the loop was not told to end.
-/
import OutlineBar.Proofs.Service.Chronicle

namespace OutlineBar

/-- A receiver that was subscribed to a service. -/
structure Receiver where
  id : ListenerId
  /-- How much had been published when it was subscribed. -/
  since : Nat
  /-- What it was given so far, in order. -/
  got : List Completion := []
  dropped : Bool := false

/-- What can happen to a service and to those who receive from it. -/
inductive Turn where
  | act (a : ServiceAct)
  /-- A receiver asks for the next completion, and would wait for one. -/
  | next (listener : ListenerId)

/-- The move of the loop that a turn is. -/
def Turn.move? : Turn → Option LoopMove
  | .act (.loop m) => some m
  | _ => none

theorem Turn.eq_of_move? {t : Turn} {m : LoopMove} (is : t.move? = some m) :
    t = .act (.loop m) := by
  unfold move? at is
  split at is <;> cases is
  rfl

/-- A chronicle with the receivers. -/
structure Ledger extends Chronicle where
  /-- Every receiver that was subscribed, in order. -/
  receivers : List Receiver := []

namespace Ledger

def start (grammar : Grammar) : Ledger := { toChronicle := .start grammar }

/-- The receivers after one of them was given something. -/
def given (id : ListenerId) (completions : List Completion) (receivers : List Receiver) :
    List Receiver :=
  receivers.map fun r => if r.id = id then { r with got := r.got ++ completions } else r

theorem given_nil (id : ListenerId) (receivers : List Receiver) :
    given id [] receivers = receivers := by
  refine List.map_id'' (fun r => ?_) receivers
  split
  · rw [List.append_nil]
  · rfl

/-- The receivers after one of them was dropped. -/
def without (id : ListenerId) (receivers : List Receiver) : List Receiver :=
  receivers.map fun r => if r.id = id then { r with dropped := true } else r

/-- The completion that an answer to a waiting receiver brings. -/
def brought : Service.Next → List Completion
  | .completion completion => [completion]
  | _ => []

/-- The ledger after a turn.  Whatever a receiver is given is noted. -/
def turn (l : Ledger) : Turn → Ledger
  | .act .subscribe => { l with
      toChronicle := l.toChronicle.act .subscribe
      receivers :=
        if l.service.dropped then l.receivers
        else l.receivers ++ [{ id := l.service.subscribe.1, since := l.published.length }] }
  | .act (.dropListener id) => { l with
      toChronicle := l.toChronicle.act (.dropListener id)
      receivers := without id l.receivers }
  | .act (.take id) => { l with
      toChronicle := l.toChronicle.act (.take id)
      receivers := given id ((l.service.broadcast.take? id).map Prod.fst).toList l.receivers }
  | .act a => { l with toChronicle := l.toChronicle.act a }
  | .next id => { l with
      service := (l.service.next id).2
      receivers := given id (brought (l.service.next id).1) l.receivers }

/-- The ledger after a course from the start of a service. -/
def course (grammar : Grammar) (turns : List Turn) : Ledger := turns.foldl turn (start grammar)

/-- The receivers that were not dropped. -/
def remaining (l : Ledger) : List Receiver := l.receivers.filter fun r => !r.dropped

/-- What a receiver was given, followed by what is queued for it. -/
def delivered (l : Ledger) (r : Receiver) : List Completion :=
  r.got ++ l.service.broadcast.queue r.id

theorem course_append (grammar : Grammar) (before after : List Turn) :
    course grammar (before ++ after) = after.foldl turn (course grammar before) :=
  List.foldl_append

/-- The move that the loop makes in a turn, with the service in which it makes it. -/
def made (l : Ledger) (t : Turn) : Option (Service × LoopMove) :=
  (t.move?.filter fun m => (l.service.move? m).isSome).map fun m => (l.service, m)

/-- The moves that the loop makes along turns. -/
def moved : Ledger → List Turn → List (Service × LoopMove)
  | _, [] => []
  | l, t :: rest => (l.made t).toList ++ (l.turn t).moved rest

/-- What a turn has to bring to everybody who listens. -/
def announces (l : Ledger) (t : Turn) : Option Completion := t.move?.bind l.service.announces

/-- What the loop has to publish along turns. -/
def announced : Ledger → List Turn → List Completion
  | _, [] => []
  | l, t :: rest => (l.announces t).toList ++ (l.turn t).announced rest

theorem brought_next (id : ListenerId) (s : Service) :
    brought (s.next id).1 = ((s.broadcast.take? id).map Prod.fst).toList := by
  unfold Service.next
  cases s.broadcast.take? id with
  | none =>
    show brought (if s.dropped && s.phase == .ended then .closed else .pending) = []
    split <;> rfl
  | some next => rfl

/-- Waiting for a completion takes what asking for one takes. -/
theorem snd_next (id : ListenerId) (s : Service) :
    (s.next id).2 = Chronicle.takeOldest id s := by
  unfold Service.next Chronicle.takeOldest
  cases s.broadcast.take? id <;> rfl

/-! ## Turns -/

variable {l : Ledger} {t : Turn}

/-- What a turn that is no move of the loop does to what the loop goes by. -/
structure Aside (l : Ledger) (t : Turn) : Prop where
  published : (l.turn t).published = l.published
  completed : (l.turn t).service.completed = l.service.completed
  phase : (l.turn t).service.phase = l.service.phase
  requests : (∀ snapshot, t ≠ .act (.request snapshot)) →
    (l.turn t).service.requests = l.service.requests
  dropped : (l.turn t).service.dropped = true ↔ l.service.dropped = true ∨ t = .act .drop
  cancelled : (l.turn t).service.cancelled = true ↔ l.service.cancelled = true ∨
    l.service.dropped = false ∧ (t = .act .shutdown ∨ t = .act .drop)

theorem turn_aside (l : Ledger) (aside : t.move? = none) : l.Aside t := by
  have took (id : ListenerId) : ∃ broadcast,
      Chronicle.takeOldest id l.service = { l.service with broadcast } := by
    unfold Chronicle.takeOldest
    split
    · exact ⟨_, rfl⟩
    · exact ⟨l.service.broadcast, rfl⟩
  cases t with
  | next id =>
    obtain ⟨broadcast, e⟩ := took id
    constructor <;> simp [turn, snd_next, e]
  | act a =>
    cases a with
    | loop m => cases aside
    | take id =>
      obtain ⟨broadcast, e⟩ := took id
      constructor <;> simp [turn, Chronicle.act, e]
    | dropListener id => constructor <;> simp [turn, Chronicle.act, Service.dropListener]
    | turnGrammar grammar => constructor <;> simp [turn, Chronicle.act]
    | request snapshot =>
      cases gone : l.service.dropped <;> constructor <;>
        simp [turn, Chronicle.act, Chronicle.request, Service.request, gone]
    | parseNow snapshot =>
      cases gone : l.service.dropped <;> constructor <;>
        simp [turn, Chronicle.act, Chronicle.call, Service.parseNow, gone]
    | subscribe =>
      cases gone : l.service.dropped <;> constructor <;>
        simp [turn, Chronicle.act, Chronicle.call, Service.subscribe, gone]
    | countListeners =>
      cases gone : l.service.dropped <;> constructor <;>
        simp [turn, Chronicle.act, Chronicle.call, Service.listenerCount, gone]
    | shutdown =>
      cases gone : l.service.dropped <;> constructor <;>
        simp [turn, Chronicle.act, Chronicle.call, Service.shutdown, gone]
    | drop =>
      cases gone : l.service.dropped <;> constructor <;>
        simp [turn, Chronicle.act, Chronicle.call, Service.drop, gone]

/-- A move that is not possible changes nothing. -/
theorem turn_of_stuck {m : LoopMove} (stuck : l.service.move? m = none) :
    l.turn (.act (.loop m)) = l := by
  simp [turn, Chronicle.act, Chronicle.move, stuck]

/-- A turn in which the loop does not move is beside it, also when a move is not possible. -/
theorem aside_or_moves (l : Ledger) (t : Turn) :
    l.Aside t ∧ l.made t = none ∨
      ∃ m s events, t = .act (.loop m) ∧ l.made t = some (l.service, m) ∧
        l.service.Moves m s events ∧ (l.turn t).service = s := by
  cases is : t.move? with
  | none => exact .inl ⟨l.turn_aside is, by rw [made, is]; rfl⟩
  | some m =>
    obtain rfl := Turn.eq_of_move? is
    cases possible : l.service.move? m with
    | none =>
      refine .inl ⟨?_, by simp [made, Turn.move?, possible, Option.filter]⟩
      constructor <;> simp [turn_of_stuck possible]
    | some next =>
      have moves := Service.moves_of_move? possible
      refine .inr ⟨m, next.1, next.2, rfl, by simp [made, Turn.move?, possible, Option.filter],
        moves, ?_⟩
      have e := Chronicle.move_of_moves moves
      show (l.toChronicle.move m).service = _
      rw [e]

/-! ## Receivers -/

theorem mem_remaining {r : Receiver} : r ∈ l.remaining ↔ r ∈ l.receivers ∧ r.dropped = false := by
  simp [remaining]

theorem mem_given {id : ListenerId} {completions : List Completion} {receivers : List Receiver}
    {r : Receiver} (mem : r ∈ receivers) :
    ∃ r' ∈ given id completions receivers,
      r'.id = r.id ∧ r'.since = r.since ∧ r'.dropped = r.dropped := by
  refine ⟨_, List.mem_map_of_mem mem, ?_⟩
  split <;> exact ⟨rfl, rfl, rfl⟩

theorem mem_without {id : ListenerId} {receivers : List Receiver} {r : Receiver}
    (mem : r ∈ receivers) :
    ∃ r' ∈ without id receivers,
      r'.id = r.id ∧ r'.since = r.since ∧ (r'.dropped = true ↔ r.dropped = true ∨ id = r.id) := by
  refine ⟨_, List.mem_map_of_mem mem, ?_⟩
  split
  · rename_i named
    exact ⟨rfl, rfl, by simp [named]⟩
  · rename_i other
    exact ⟨rfl, rfl, by simp [Ne.symm other]⟩

/-- A receiver stays on record, and is dropped by dropping it only. -/
theorem mem_turn {r : Receiver} (mem : r ∈ l.receivers) (t : Turn) :
    ∃ r' ∈ (l.turn t).receivers, r'.id = r.id ∧ r'.since = r.since ∧
      (r'.dropped = true ↔ r.dropped = true ∨ t = .act (.dropListener r.id)) := by
  have kept (same : (l.turn t).receivers = l.receivers) (other : t ≠ .act (.dropListener r.id)) :
      ∃ r' ∈ (l.turn t).receivers, r'.id = r.id ∧ r'.since = r.since ∧
        (r'.dropped = true ↔ r.dropped = true ∨ t = .act (.dropListener r.id)) :=
    ⟨r, same ▸ mem, rfl, rfl, by simp [other]⟩
  cases t with
  | next id =>
    obtain ⟨r', mem', sameId, sameSince, same⟩ := mem_given mem
    exact ⟨r', mem', sameId, sameSince, by simp [same]⟩
  | act a =>
    cases a with
    | take id =>
      obtain ⟨r', mem', sameId, sameSince, same⟩ := mem_given mem
      exact ⟨r', mem', sameId, sameSince, by simp [same]⟩
    | dropListener id =>
      obtain ⟨r', mem', sameId, sameSince, same⟩ := mem_without mem
      exact ⟨r', mem', sameId, sameSince, by simp [same]⟩
    | subscribe =>
      refine ⟨r, ?_, rfl, rfl, by simp⟩
      show r ∈ if l.service.dropped then l.receivers else _
      split
      · exact mem
      · exact List.mem_append_left _ mem
    | _ => exact kept rfl nofun

theorem mem_run {r : Receiver} (mem : r ∈ l.receivers) (turns : List Turn) :
    ∃ r' ∈ (turns.foldl turn l).receivers, r'.id = r.id ∧ r'.since = r.since ∧
      (r'.dropped = true ↔ r.dropped = true ∨ .act (.dropListener r.id) ∈ turns) := by
  induction turns generalizing l r with
  | nil => exact ⟨r, mem, rfl, rfl, by simp⟩
  | cons t rest ih =>
    obtain ⟨r', mem', sameId, sameSince, here⟩ := mem_turn mem t
    obtain ⟨r'', mem'', sameId', sameSince', later⟩ := ih mem'
    refine ⟨r'', mem'', sameId'.trans sameId, sameSince'.trans sameSince, ?_⟩
    rw [later, here, sameId, List.mem_cons, or_assoc, @eq_comm _ t]

end Ledger

end OutlineBar
