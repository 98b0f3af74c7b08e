/-
Playing a scene.

Every step answers a reply and comes with a report: the notes of the owners, the
windows whose handle is attached, the windows registered with the session, and the
events.  A step that panics answers its panic, keeps what it did until then, and the
scene goes on.
-/
import OutlineBar.Scripted.SceneWindowStep

namespace OutlineBar

structure SceneReport where
  reply : SceneReply
  /-- The notes under the names of the windows whose owners took them. -/
  notes : List (String × List Note)
  attached : List String
  registered : List WindowId
  events : List Event

namespace Scene

/-! ## Several windows -/

def inOrder (ns : List Nat) : List Nat := ns.mergeSort fun a b => decide (a ≤ b)

/-- Whether a failure comes before another: by window, then operation, then code. -/
def failureBefore (a b : WindowId × HostFailure) : Bool :=
  if a.1.number ≠ b.1.number then decide (a.1.number < b.1.number)
  else if a.2.operation.label ≠ b.2.operation.label then
    decide (a.2.operation.label < b.2.operation.label)
  else decide (a.2.code ≤ b.2.code)

def failuresInOrder (error : ToggleError) : ToggleError :=
  { error with failures := error.failures.mergeSort failureBefore }

def endsAfter (breakAfter : Option Int) (visited : Nat) : Bool :=
  match breakAfter with
  | some n => decide (n ≤ visited)
  | none => false

/-- Visits one registered window and adds its number to those seen before. -/
def visitWindow (roster : RosterId) (action : VisitAction) (breakAfter : Option Int)
    (seen : List Nat) (h : Handle) : Action (Workspace Stage) (ForInStep (List Nat)) := do
  let seen := seen ++ [h.window.number]
  match action with
  | .register => h.register
  | .unregister => h.unregister
  | .drainRoster => let _ ← Workspace.onBackstage (Backstage.drain roster)
  | .nothing => pure ()
  return if endsAfter breakAfter seen.length then .done seen else .yield seen

def tickEach (source : IdleSourceId) : List IdleRound → Action (Workspace Stage) Unit
  | [] => return ()
  | round :: rest => do
    let _ ← round.run Stage.host source
    tickEach source rest

/-! ## Steps of the session -/

def onSession (act : Session → Action Scene SceneReply) : Action Scene SceneReply := do
  match (← get).session with
  | some s => act s
  | none => return .noSession

def shutdown : Action Scene SceneReply :=
  onSession fun s => do
    modify fun scene => { scene with session := none }
    return .number (← onWork (s.shutdown Stage.host))

/-- Drops the session; there may be none any more. -/
def dropSession : Action Scene SceneReply := do
  if let some s := (← get).session then
    modify fun scene => { scene with session := none }
    onWork (s.drop Stage.host)
  return .nothing

/-! ## Scopes and coordinators -/

/-- Adds a scope with the session's roster or one of its own. -/
def addScope (name text : String) (shared : Bool) : Action Scene SceneReply := do
  match Options.ofText text with
  | .error error => return .malformedOptions error
  | .ok options =>
    let roster ← if shared then pure ((← get).rosterIdOf "") else onWork Workspace.addRoster
    let scope ← onWork (Workspace.addScope (.ofOptions options roster))
    modify fun scene => { scene with
      scopes := (name, scope) :: scene.scopes.filter fun entry => entry.1 != name }
    return .nothing

def scopeState (scene : Scene) (name : String) : SceneReply :=
  let id := scene.scopeOf name
  let scope := scene.work.scopes.get id
  .scopeState scope.enabled scope.options.bar.priority scope.options.bar.language
    (scene.work.scopeDescription id)

def setCoordinator (name : String) (coordinator : Option IdleCoordinator) : Action Scene Unit :=
  modify fun scene => { scene with
    coordinators := (coordinator.map (name, ·)).toList ++
      scene.coordinators.filter fun entry => entry.1 != name }

def onCoordinator (name : String) (act : IdleCoordinator → Action Scene SceneReply) :
    Action Scene SceneReply := do
  match (← get).coordinators.lookup name with
  | some c => act c
  | none => return .noCoordinator

/-- Adds a coordinator; one of the same name is dropped after that. -/
def install (name : String) (cap : Nat) (scope : String) : Action Scene SceneReply := do
  let scene ← get
  let round : IdleRound :=
    { roster := scene.rosterIdOf scope, cap := { maxWindows := cap : IdleOptions }.cap }
  let c ← onWork (IdleCoordinator.install Stage.host round idleHost)
  setCoordinator name (some c)
  if let some old := scene.coordinators.lookup name then
    let _ ← onWork (old.uninstall Stage.host)
  return .nothing

/-! ## Steps -/

open Stage in
def perform : SceneStep → Action Scene SceneReply
  | .openWindow opening => openWindow opening
  | .onWindow name step => do
    match (← get).window? name with
    | some window => windowStep window step
    | none => return .unknownWindow
  | .toggle enabled => onSession fun s => do
    return .toggled ((← onWork (s.setEnabled host enabled)).mapError failuresInOrder)
  | .dispatch => onSession fun s => return .number (← onWork (s.dispatch host))
  | .isEnabled => onSession fun s => return .flag (← onWork s.isEnabled)
  | .idle budget => onSession fun s => do
    let source ← newSource budget
    return .idle (← onWork (s.onIdle host source)) (← checks source)
  | .shutdown => shutdown
  | .dropSession => dropSession
  | .tick budget => do
    let source ← newSource budget
    let rounds := (← get).work.host.subscriptions.map Prod.snd
    onWork (tickEach source rounds)
    return .ticked rounds.length (← checks source)
  | .settle => do
    onWork Workspace.settle
    return .nothing
  | .addScope name text shared => addScope name text shared
  | .scopeState name => return (← get).scopeState name
  | .install name cap scope => install name cap scope
  | .coordinatorIdle name budget => onCoordinator name fun c => do
    let source ← newSource budget
    return .coordinatorIdle (← onWork (c.onIdle host source)) (← checks source) c.isInstalled
  | .uninstall name => onCoordinator name fun c => do
    let c ← onWork (c.uninstall host)
    setCoordinator name (some c)
    return .coordinator c.isInstalled
  | .dropCoordinator name => onCoordinator name fun c => do
    setCoordinator name none
    let _ ← onWork (c.uninstall host)
    return .nothing
  | .rosterSize scope => return .rosterSize ((← get).rosterOf scope).size
  | .rosterIds scope => return .numbers (((← get).rosterOf scope).ids.map WindowId.number)
  | .rosterHas scope id => return .flag (((← get).rosterOf scope).contains id)
  | .rosterRemove scope id => do
    let roster := (← get).rosterIdOf scope
    let removed ← onWork (Workspace.onBackstage (Backstage.remove roster id))
    return .optionalNumber (removed.map fun h => h.window.number)
  | .rosterDrain scope => do
    let roster := (← get).rosterIdOf scope
    let handles ← onWork (Workspace.onBackstage (Backstage.drain roster))
    return .numbers (inOrder (handles.map fun h => h.window.number))
  | .rosterVisit scope action breakAfter => do
    let roster := (← get).rosterIdOf scope
    let (visited, seen) ← onWork
      (Workspace.walk roster [] (visitWindow roster action breakAfter))
    return .visited visited (if breakAfter.isSome then none else some (inOrder seen))

/-! ## Reports -/

/-- The rosters that scopes with names, idle coordinators, idle subscriptions and the
filters of windows hold. -/
def heldRosters (scene : Scene) : List RosterId :=
  let scopes := scene.scope :: scene.scopes.map Prod.snd
  let rounds := (scene.session.toList.map Session.idle ++ scene.coordinators.map Prod.snd).map
    IdleCoordinator.round ++ scene.work.host.subscriptions.map Prod.snd
  scopes.map (fun scope => (scene.work.scopes.get scope).roster) ++
    rounds.map IdleRound.roster ++ scene.windows.map fun w =>
      (scene.work.host.filters.get w.filters).roster

def release (scene : Scene) : Scene :=
  { scene with
    work := scene.work.release {
      handles := scene.windows.filterMap SceneWindow.handle
      buffers := scene.windows.map SceneWindow.buffer
      rosters := scene.heldRosters
      filtered := fun filters => [(scene.work.host.filters.get filters).roster] } }

/-- The notes since the last report, the session's own among them.  Those of the windows
can be pooled and put in order. -/
def notes (scene : Scene) (pooled : Bool) : List (String × List Note) :=
  let stage := scene.work.host
  let own := scene.windows.map fun w => (w.name, (stage.owners.get w.owner).log)
  let ofWindows :=
    if pooled then [("<all>", Note.sorted (own.flatMap Prod.snd))]
    else own.filter fun entry => !entry.2.isEmpty
  if stage.log.isEmpty then ofWindows else ("<host>", stage.log) :: ofWindows

def attachedNames (scene : Scene) : List String :=
  (scene.windows.filter fun w =>
    w.handle.any fun h => (scene.work.presenterOf h).isAttached).map SceneWindow.name

def report (scene : Scene) (reply : SceneReply) (pooled : Bool) : SceneReport :=
  { reply
    notes := scene.notes pooled
    attached := scene.attachedNames
    registered := (scene.rosterOf "").ids
    events := Event.reported scene.work.trace }

def cleared (scene : Scene) : Scene :=
  let stage := scene.work.host
  let owners := stage.owners.refs.foldl
    (fun owners id => owners.modify id fun owner => { owner with log := [] }) stage.owners
  { scene with work := { scene.work with trace := [], host := { stage with owners, log := [] } } }

def play (step : SceneStep) (pooled : Bool) (scene : Scene) : SceneReport × Scene :=
  let (reply, scene) :=
    match perform step scene with
    | .ok reply scene => (reply, scene)
    | .error panic scene => (.panicked panic, scene)
  let scene := scene.release
  (scene.report reply pooled, scene.cleared)

def playAll (scene : Scene) : List (SceneStep × Bool) → List SceneReport
  | [] => []
  | (step, pooled) :: rest =>
    let (report, scene) := scene.play step pooled
    report :: scene.playAll rest

def begin (options : Options) : Action Scene SceneReply := do
  let s ← onWork (Session.start Stage.host options idleHost)
  modify fun scene => { scene with session := some s, scope := s.scope }
  return .nothing

/-- Starts a session and performs steps; answers the reports of the start and of every
step. -/
def run (options : Options) (steps : List (SceneStep × Bool)) : List SceneReport :=
  match begin options {} with
  | .ok reply scene => scene.report reply false :: scene.cleared.playAll steps
  | .error panic scene => [scene.report (.panicked panic) false]

end Scene

end OutlineBar
