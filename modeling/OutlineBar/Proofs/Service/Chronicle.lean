/-
What happens to a service, in any order.

A course is a list of acts: calls on the service, receivers that come, take and go,
moves of its loop, and changes of the grammar, which need not answer twice alike.  A
`Chronicle` keeps the service together with what became of the requests so far.  It
reads none of this off the service's own counters or reports.  Requests are numbered as
they are made, a publication is what a listener hears that subscribed just before the move,
and a parse panicked if the grammar answered it with a panic.
-/
import OutlineBar.Proofs.Service.Moves

namespace OutlineBar

/-- What can happen to a service. -/
inductive ServiceAct where
  | request (snapshot : Snapshot)
  | parseNow (snapshot : Snapshot)
  | subscribe
  | dropListener (listener : ListenerId)
  | take (listener : ListenerId)
  | countListeners
  | shutdown
  | drop
  | loop (move : LoopMove)
  /-- From now on the grammar behaves like this. -/
  | turnGrammar (grammar : Grammar)

/-- A request that the loop picked up. -/
structure PickUp where
  /-- The number of the request.  The first one has number one. -/
  number : Nat
  snapshot : Snapshot
  deriving DecidableEq, Repr

/-- A publication and the number of the request it answers. -/
structure Publication where
  number : Nat
  completion : Completion
  deriving Repr

/-- The snapshot that a loop is parsing. -/
def LoopPhase.snapshot? : LoopPhase → Option Snapshot
  | .parsing snapshot => some snapshot
  | _ => none

namespace Service

/-- The parse that a move ends, as a snapshot and what the grammar answers to it. -/
def ends (s : Service) (m : LoopMove) : Option (Snapshot × Except Panic Outline) :=
  (s.move? m).bind fun _ => s.phase.snapshot?.map fun snapshot => (snapshot, s.grammar snapshot)

theorem ends_of_moves {s s' : Service} {m : LoopMove} {events : List Event}
    (moves : s.Moves m s' events) :
    s.ends m = s.phase.snapshot?.map fun snapshot => (snapshot, s.grammar snapshot) := by
  unfold ends
  rw [moves.move?]
  rfl

/-- No parse ends in a move outside a parse. -/
theorem ends_of_idle {s : Service} (idle : s.phase.snapshot? = none) (m : LoopMove) :
    s.ends m = none := by
  unfold ends
  rw [idle]
  cases s.move? m <;> rfl

theorem ends_of_parsing {s s' : Service} {m : LoopMove} {events : List Event}
    (moves : s.Moves m s' events) {snapshot : Snapshot} (parses : s.phase = .parsing snapshot) :
    s.ends m = some (snapshot, s.grammar snapshot) := by
  rw [ends_of_moves moves, parses]
  rfl

/-- What a move has to bring to everybody who listens, by what the grammar answers to the
parse that it ends: the outline, under the version of its snapshot, unless the loop was told
to end. -/
def announces (s : Service) (m : LoopMove) : Option Completion :=
  match s.ends m with
  | some (snapshot, .ok made) =>
    if s.cancelled then none
    else some ⟨snapshot.version, { made with version := snapshot.version }⟩
  | _ => none

/-- What a listener hears from a move of the loop that subscribed just before it. -/
def heard (s : Service) (m : LoopMove) : List Completion :=
  let (id, s) := s.subscribe
  match s.move? m with
  | some (s, _) => s.broadcast.queue id
  | none => []

/-- A listener hears the outline that a move publishes. -/
theorem heard_of_publish {s : Service} {snapshot : Snapshot} {outline : Outline}
    (ordered : s.broadcast.Ordered) (parses : s.phase = .parsing snapshot)
    (outlined : s.grammar.outline snapshot = .ok outline) (runs : s.cancelled = false) :
    s.heard .finish = [.of outline] := by
  have h : s.subscribe.2.Moves .finish _ _ := .publish parses outlined runs
  show (match s.subscribe.2.move? .finish with
    | some (t, _) => t.broadcast.queue s.subscribe.1
    | none => []) = _
  rw [h.move?]
  show (s.broadcast.subscribe.2.publish (.of outline)).2.queue s.broadcast.subscribe.1 = _
  rw [Broadcast.queue_publish (Broadcast.hears_subscribe_self _),
    Broadcast.queue_subscribe_self ordered]
  rfl

/-- A listener hears nothing from any other move. -/
theorem heard_of_silent {s s' : Service} {m : LoopMove} {events : List Event}
    (ordered : s.broadcast.Ordered) (h : s.Moves m s' events)
    (silent : s'.completed = s.completed) : s.heard m = [] := by
  have empty : s.subscribe.2.broadcast.queue s.subscribe.1 = [] :=
    Broadcast.queue_subscribe_self ordered
  -- The same case applies to the service with the new listener, and leaves its queue alone.
  have same : ∃ t events, s.subscribe.2.Moves m t events ∧
      t.broadcast = s.subscribe.2.broadcast := by
    cases h with
    | wake waits news => exact ⟨_, _, .wake waits news, rfl⟩
    | nothing wakes none => exact ⟨_, _, .nothing wakes none, rfl⟩
    | skip wakes latest known older => exact ⟨_, _, .skip wakes latest known older, rfl⟩
    | parse wakes latest fresh => exact ⟨_, _, .parse wakes latest fresh, rfl⟩
    | publish parses outlined runs => exact absurd silent (Nat.succ_ne_self _)
    | withhold parses outlined ends => exact ⟨_, _, .withhold parses outlined ends, rfl⟩
    | panic parses panics => exact ⟨_, _, .panic parses panics, rfl⟩
    | leave waits ends => exact ⟨_, _, .leave waits ends, rfl⟩
  obtain ⟨t, events', moves, kept⟩ := same
  show (match s.subscribe.2.move? m with
    | some (t, _) => t.broadcast.queue s.subscribe.1
    | none => []) = _
  rw [moves.move?]
  show t.broadcast.queue s.subscribe.1 = []
  rw [kept, empty]

theorem announces_of_publish {s s' : Service} {m : LoopMove} {events : List Event}
    {snapshot : Snapshot} {outline : Outline} (moves : s.Moves m s' events)
    (parses : s.phase = .parsing snapshot)
    (outlined : s.grammar.outline snapshot = .ok outline) (runs : s.cancelled = false) :
    s.announces m = some (.of outline) := by
  obtain ⟨made, answered, rfl⟩ := Grammar.outline_eq_ok outlined
  unfold announces
  rw [ends_of_parsing moves parses, answered]
  simp [runs, Completion.of, Outline.stamped]

theorem announces_of_silent {s s' : Service} {m : LoopMove} {events : List Event}
    (moves : s.Moves m s' events) (silent : s'.completed = s.completed) :
    s.announces m = none := by
  unfold announces
  have moved := moves
  cases moves with
  | publish parses outlined runs => exact absurd silent (Nat.succ_ne_self _)
  | withhold parses outlined ends =>
    obtain ⟨made, answered, -⟩ := Grammar.outline_eq_ok outlined
    rw [ends_of_parsing moved parses, answered]
    simp [ends]
  | panic parses panics => rw [ends_of_parsing moved parses, Grammar.outline_eq_error panics]
  | wake waits news => rw [ends_of_idle (by rw [waits]; rfl)]
  | nothing wakes none => rw [ends_of_idle (by rw [wakes]; rfl)]
  | skip wakes latest known older => rw [ends_of_idle (by rw [wakes]; rfl)]
  | parse wakes latest fresh => rw [ends_of_idle (by rw [wakes]; rfl)]
  | leave waits ends => rw [ends_of_idle (by rw [waits]; rfl)]

end Service

/-- A service, and what happened to it so far. -/
structure Chronicle where
  service : Service
  /-- Every request, in order. -/
  requested : List Snapshot := []
  /-- The requests that the loop picked up, in order. -/
  picked : List PickUp := []
  /-- The publications, in order. -/
  published : List Publication := []
  /-- The numbers of the requests whose parse panicked. -/
  panicked : List Nat := []

namespace Chronicle

/-- A service whose loop has just been started. -/
def start (grammar : Grammar) : Chronicle := { service := .start grammar }

/-- The number of the request that was picked up last. -/
def current (c : Chronicle) : Nat := (c.picked.getLast?.map PickUp.number).getD 0

/-- What the loop picks up when it picks something up now. -/
def nextPickUp (c : Chronicle) : List PickUp :=
  (c.service.requests.latest.map (PickUp.mk c.requested.length)).toList

/-- The numbers of the parses that end with a panic of the grammar in a move. -/
def panics (m : LoopMove) (c : Chronicle) : List Nat :=
  match c.service.ends m with
  | some (_, .error _) => [c.current]
  | _ => []

/-- The chronicle after a move of the loop, if the move is possible. -/
def move (m : LoopMove) (c : Chronicle) : Chronicle :=
  match c.service.move? m with
  | none => c
  | some (service, _) => { c with
      service
      picked := c.picked ++ (if m = .pick then c.nextPickUp else [])
      published := c.published ++ (c.service.heard m).map (Publication.mk c.current)
      panicked := c.panicked ++ c.panics m }

/-- The chronicle after a call, which can be made until the service is dropped. -/
def call (change : Service → Service) (c : Chronicle) : Chronicle :=
  if c.service.dropped then c else { c with service := change c.service }

/-- The chronicle after a request. -/
def request (snapshot : Snapshot) (c : Chronicle) : Chronicle :=
  if c.service.dropped then c
  else { c with
    service := c.service.request snapshot
    requested := c.requested ++ [snapshot] }

/-- The service after a listener took its oldest completion. -/
def takeOldest (id : ListenerId) (s : Service) : Service :=
  match s.broadcast.take? id with
  | some (_, broadcast) => { s with broadcast }
  | none => s

/-- The chronicle after an act. -/
def act (c : Chronicle) : ServiceAct → Chronicle
  | .request snapshot => c.request snapshot
  | .parseNow snapshot => c.call fun s => (s.parseNow snapshot).2
  | .subscribe => c.call fun s => s.subscribe.2
  | .dropListener id => { c with service := c.service.dropListener id }
  | .take id => { c with service := takeOldest id c.service }
  | .countListeners => c.call fun s => s.listenerCount.2
  | .shutdown => c.call Service.shutdown
  | .drop => c.call Service.drop
  | .loop m => c.move m
  | .turnGrammar grammar => { c with service := { c.service with grammar } }

/-- The chronicle after a course from the start of a service. -/
def course (grammar : Grammar) (acts : List ServiceAct) : Chronicle :=
  acts.foldl act (start grammar)

theorem move_of_moves {c : Chronicle} {m : LoopMove} {s : Service} {events : List Event}
    (moves : c.service.Moves m s events) :
    c.move m = { c with
      service := s
      picked := c.picked ++ (if m = .pick then c.nextPickUp else [])
      published := c.published ++ (c.service.heard m).map (Publication.mk c.current)
      panicked := c.panicked ++ c.panics m } := by
  unfold move
  rw [moves.move?]

theorem panics_of_idle {c : Chronicle} (idle : c.service.phase.snapshot? = none) (m : LoopMove) :
    c.panics m = [] := by
  unfold panics
  rw [Service.ends_of_idle idle]

section
variable {c : Chronicle} {m : LoopMove} {s : Service} {events : List Event} {snapshot : Snapshot}

theorem panics_of_outline {outline : Outline} (moves : c.service.Moves m s events)
    (parses : c.service.phase = .parsing snapshot)
    (outlined : c.service.grammar.outline snapshot = .ok outline) : c.panics m = [] := by
  obtain ⟨made, answered, -⟩ := Grammar.outline_eq_ok outlined
  unfold panics
  rw [Service.ends_of_parsing moves parses, answered]

theorem panics_of_panic {p : Panic} (moves : c.service.Moves m s events)
    (parses : c.service.phase = .parsing snapshot)
    (panicked : c.service.grammar.outline snapshot = .error p) : c.panics m = [c.current] := by
  unfold panics
  rw [Service.ends_of_parsing moves parses, Grammar.outline_eq_error panicked]

end

/-- What holds at the start and is kept by every act holds after every course. -/
theorem course_invariant {P : Chronicle → Prop} {grammar : Grammar} (base : P (start grammar))
    (step : ∀ c a, P c → P (c.act a)) (acts : List ServiceAct) : P (course grammar acts) := by
  have run : ∀ c, P c → P (acts.foldl act c) := by
    induction acts with
    | nil => exact fun _ h => h
    | cons a rest ih => exact fun c h => ih (c.act a) (step c a h)
  exact run _ base

end Chronicle

end OutlineBar
