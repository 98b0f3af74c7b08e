/-
The background outline service of one buffer.

Callers put snapshots into a place for one request, where a later snapshot takes
the place of an earlier one.  A loop picks the request up, parses it, and publishes
the outline.  It parses one snapshot at a time, skips a snapshot older than the last
one it published, and survives a panic of the grammar.  Shutting the service down,
or dropping it, cancels the loop: a parse under way ends without being published.

The loop is a machine of small moves, each of which may be possible or not in a
state.  Requests may come between any two moves, also after the loop woke up and
before it reads.  While a request waits in a cancelled service two moves are possible,
and nothing here prefers one.
-/
import OutlineBar.Event
import OutlineBar.Outline.Grammar
import OutlineBar.Outliner.Broadcast
import OutlineBar.Outliner.RequestSlot

namespace OutlineBar

/-- What the loop of a service is doing. -/
inductive LoopPhase where
  | waiting
  /-- There is a request, but it has not been read yet. -/
  | woken
  | parsing (snapshot : Snapshot)
  | ended
  deriving DecidableEq, Repr, Inhabited

structure Service where
  grammar : Grammar
  broadcast : Broadcast := {}
  requests : RequestSlot := {}
  phase : LoopPhase := .waiting
  /-- The version of the last outline published. -/
  lastVersion : Option Nat := none
  /-- How many outlines were published. -/
  completed : Nat := 0
  /-- How often the grammar was called, by the loop or by a caller. -/
  started : Nat := 0
  /-- Whether the loop was told to end. -/
  cancelled : Bool := false
  /-- Whether the service itself is gone, so that no request can come any more. -/
  dropped : Bool := false

inductive LoopMove where
  /-- Notice that there is a request. -/
  | wake
  /-- Pick up the last request. -/
  | pick
  /-- Finish the parse under way. -/
  | finish
  /-- End because of a cancellation. -/
  | leave
  deriving DecidableEq, Repr

namespace Service

def start (grammar : Grammar) : Service := { grammar }

/-! ## Calls -/

/-- Asks for a parse; a request that is still waiting is forgotten. -/
def request (snapshot : Snapshot) (s : Service) : Service :=
  { s with requests := s.requests.put snapshot }

/-- Parses a snapshot on behalf of the caller, beside the loop. -/
def parseNow (snapshot : Snapshot) (s : Service) : Except Panic Outline × Service :=
  (s.grammar.outline snapshot, { s with started := s.started + 1 })

def subscribe (s : Service) : ListenerId × Service :=
  let (id, broadcast) := s.broadcast.subscribe
  (id, { s with broadcast })

def dropListener (id : ListenerId) (s : Service) : Service :=
  { s with broadcast := s.broadcast.drop id }

def listenerCount (s : Service) : Nat × Service :=
  let (n, broadcast) := s.broadcast.count
  (n, { s with broadcast })

def shutdown (s : Service) : Service := { s with cancelled := true }

/-- Drops the service, which tells the loop to end. -/
def drop (s : Service) : Service := { s with cancelled := true, dropped := true }

/-! ## The loop -/

/-- Whether a snapshot is older than the last one published. -/
def isOlder (s : Service) (snapshot : Snapshot) : Option Nat :=
  s.lastVersion.filter fun last => snapshot.version < last

def wakeUp (s : Service) : Service := { s with requests := s.requests.look, phase := .woken }

def startParse (snapshot : Snapshot) (s : Service) : Service × List Event :=
  match s.isOlder snapshot with
  | some last => ({ s with phase := .waiting }, [.olderSkipped snapshot.version last])
  | none => ({ s with phase := .parsing snapshot, started := s.started + 1 }, [])

def pickUp (s : Service) : Service × List Event :=
  let s := { s with requests := s.requests.look }
  match s.requests.latest with
  | some snapshot => s.startParse snapshot
  | none => ({ s with phase := .waiting }, [])

def publish (outline : Outline) (s : Service) : Service × List Event :=
  let (listeners, broadcast) := s.broadcast.publish (.of outline)
  ({ s with
      broadcast
      phase := .waiting
      lastVersion := some outline.version
      completed := s.completed + 1 },
    [.parseCompleted outline.version listeners])

def endLoop (s : Service) : Service × List Event := ({ s with phase := .ended }, [.loopEnded])

def finishParse (snapshot : Snapshot) (s : Service) : Service × List Event :=
  match s.grammar.outline snapshot with
  | .ok outline => if s.cancelled then s.endLoop else s.publish outline
  | .error panic => ({ s with phase := .waiting }, [.parsePanicked snapshot.version panic])

/-- The service after a move of its loop and the events of the move, if the move is
possible. -/
def move? (s : Service) : LoopMove → Option (Service × List Event)
  | .wake =>
    match s.phase, s.requests.hasUnseen with
    | .waiting, true => some (s.wakeUp, [])
    | _, _ => none
  | .pick =>
    match s.phase with
    | .woken => some s.pickUp
    | _ => none
  | .finish =>
    match s.phase with
    | .parsing snapshot => some (s.finishParse snapshot)
    | _ => none
  | .leave =>
    match s.phase, s.cancelled with
    | .waiting, true => some s.endLoop
    | _, _ => none

/-! ## Receiving -/

/-- What a listener gets that asks for the next completion. -/
inductive Next where
  | completion (completion : Completion)
  | pending
  | closed

/-- The next completion of a listener.  The queue is emptied first; after that the
listener is closed once nobody can publish any more. -/
def next (id : ListenerId) (s : Service) : Next × Service :=
  match s.broadcast.take? id with
  | some (completion, broadcast) => (.completion completion, { s with broadcast })
  | none => (if s.dropped && s.phase == .ended then .closed else .pending, s)

/-! ## Coming to rest -/

/-- Makes the moves of a schedule that are possible when their turn comes. -/
def follow : List LoopMove → Service → Service × List Event
  | [], s => (s, [])
  | m :: rest, s =>
    match s.move? m with
    | some (s, events) =>
      let (s, more) := follow rest s
      (s, events ++ more)
    | none => follow rest s

/-- The moves that bring any loop to rest: pick up what it woke up for and finish the
parse under way, then leave if told to, or else wake up, pick up and parse the request.
While parses are held back none can be finished. -/
def restSchedule (held : Bool) : List LoopMove :=
  if held then [.pick, .leave, .wake, .pick] else [.pick, .finish, .leave, .wake, .pick, .finish]

/-- Runs the loop until it waits for a request, or, while parses are held back, until
it waits for a parse. -/
def settle (held : Bool) (s : Service) : Service × List Event := follow (restSchedule held) s

end Service

end OutlineBar
