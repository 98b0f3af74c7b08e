/-
Scenes: a session on a stage.

A scene has windows with names, each with an owner of its own, and possibly a handle
on the window's presenter.  Beside the session it can have further scopes and idle
coordinators, also with names.  A step of a scene answers a `SceneReply`; what the
step did is reported with it.
-/
import OutlineBar.Options.Load
import OutlineBar.Scripted.Stage
import OutlineBar.Session
import OutlineBar.Workspace.Lifetime
import OutlineBar.Workspace.Rest

namespace OutlineBar

/-! ## Steps -/

/-- What a window takes over from other windows, by their names. -/
structure SharedParts where
  buffer : Option String := none
  outliner : Option String := none
  shell : Option String := none
  factory : Option String := none
  filters : Option String := none
  deriving DecidableEq, Repr

/-- Which outliner a new buffer brings. -/
inductive InstalledKind where
  | scripted
  | service
  | none
  deriving DecidableEq, Repr

structure Opening where
  name : String
  scope : String
  window : WindowId
  view : ViewId
  snapshot : Snapshot
  contentType : String
  installed : InstalledKind
  primary : ViewId
  secondary : Option ViewId
  slot : BarSlotId
  plainFilters : Bool
  shared : SharedParts
  knobs : List (String × Option Knob)
  hasGrammar : Bool

/-- What a visit to a registered window does. -/
inductive VisitAction where
  | register
  | unregister
  | drainRoster
  | nothing
  deriving DecidableEq, Repr

inductive WindowStep where
  | setKnob (name : String) (knob : Option Knob)
  | setText (text : String) (version : Option Nat)
  | foreignBar
  | publish (version : Nat)
  | listeners
  | close
  | adopt (scope : String) (id : WindowId)
  | lookUp (scope : String) (id : WindowId)
  | adorn
  | unadorn
  | attach
  | detach
  | register
  | unregister
  | enter (scope : String) (id : Option WindowId)
  | noteView (view : ViewId)
  | drain
  | requestOutline
  | accept (version source : Nat)
  | maintain (budget : Option Nat)
  | state
  | other
  deriving Repr

inductive SceneStep where
  | openWindow (opening : Opening)
  | onWindow (name : String) (step : WindowStep)
  | toggle (enabled : Bool)
  | dispatch
  | isEnabled
  | idle (budget : Option Nat)
  | shutdown
  | dropSession
  | tick (budget : Option Nat)
  | settle
  | addScope (name text : String) (shared : Bool)
  | scopeState (scope : String)
  | install (name : String) (cap : Nat) (scope : String)
  | coordinatorIdle (name : String) (budget : Option Nat)
  | uninstall (name : String)
  | dropCoordinator (name : String)
  | rosterSize (scope : String)
  | rosterIds (scope : String)
  | rosterHas (scope : String) (id : WindowId)
  | rosterRemove (scope : String) (id : WindowId)
  | rosterDrain (scope : String)
  | rosterVisit (scope : String) (action : VisitAction) (breakAfter : Option Int)

/-! ## Replies -/

/-- How a state calls a client: by its number among the clients of the window's own
factory, or as one from elsewhere. -/
inductive ClientLabel where
  | own (serial : Nat)
  | elsewhere
  deriving DecidableEq, Repr

structure WindowState where
  window : WindowId
  attached : Bool
  client : Option ClientLabel
  views : List ViewId
  /-- The client that the buffer names as attached. -/
  property : Option ClientLabel
  properties : Nat
  bagDescription : String
  /-- The client in the slot of the window's shell. -/
  bar : Option ClientLabel
  /-- Whether the outliner that the buffer brings is the presenter's. -/
  usesInstalledOutliner : Bool
  deriving DecidableEq, Repr

inductive SceneReply where
  | nothing
  | unknownWindow
  | noHandle
  | noSession
  | noCoordinator
  | panicked (panic : Panic)
  | opened (handle : Handle)
  | refused (error : OpenError)
  | malformedOptions (error : OptionsError)
  | status (status : HostStatus)
  | flag (yes : Bool)
  | number (n : Nat)
  | optionalNumber (n : Option Nat)
  | numbers (ns : List Nat)
  | entry (window : WindowId) (same : Bool)
  | windowState (state : WindowState)
  | toggled (result : Except ToggleError Unit)
  | idle (report : IdleReport) (checks : Nat)
  | ticked (callbacks checks : Nat)
  | coordinatorIdle (report : IdleReport) (checks : Nat) (installed : Bool)
  | coordinator (installed : Bool)
  | scopeState (enabled : Bool) (priority : Int) (language description : String)
  | rosterSize (n : Nat)
  | visited (n : Nat) (seen : Option (List Nat))

/-! ## The scene -/

/-- A window of a scene with the objects that were made or taken over for it. -/
structure SceneWindow where
  name : String
  owner : OwnerId
  buffer : BufferId
  shell : ShellId
  factory : FactoryId
  filters : FiltersId
  handle : Option Handle := none

structure Scene where
  work : Workspace Stage := { host := {} }
  /-- The windows, by ascending names. -/
  windows : List SceneWindow := []
  session : Option Session := none
  /-- The scope of the session, also when the session is over. -/
  scope : ScopeId := ⟨0⟩
  scopes : List (String × ScopeId) := []
  coordinators : List (String × IdleCoordinator) := []

namespace Scene

def idleHost : IdleHostId := ⟨0⟩

def window? (scene : Scene) (name : String) : Option SceneWindow :=
  scene.windows.find? fun w => w.name == name

/-- The scope of a name; the session's own scope has the empty name, and every name
that was not given to another. -/
def scopeOf (scene : Scene) (name : String) : ScopeId :=
  if name.isEmpty then scene.scope else (scene.scopes.lookup name).getD scene.scope

def rosterIdOf (scene : Scene) (name : String) : RosterId :=
  (scene.work.scopes.get (scene.scopeOf name)).roster

def rosterOf (scene : Scene) (name : String) : Roster :=
  scene.work.rosters.get (scene.rosterIdOf name)

def insertWindow (window : SceneWindow) : List SceneWindow → List SceneWindow
  | [] => [window]
  | other :: rest =>
    if window.name < other.name then window :: other :: rest
    else if window.name = other.name then window :: rest
    else other :: insertWindow window rest

def onWork {α : Type} (act : Action (Workspace Stage) α) : Action Scene α :=
  Action.zoom (·.work) (fun work scene => { scene with work }) act

def onStage {α : Type} (act : Action Stage α) : Action Scene α := onWork (Workspace.onHost act)

def updateStage (change : Stage → Stage) : Action Scene Unit := onStage (modify change)

def newSource (budget : Option Nat) : Action Scene IdleSourceId :=
  onStage fun s =>
    let (id, sources) := s.sources.add { left := budget }
    .ok id { s with sources }

/-- How often an idle source was asked. -/
def checks (source : IdleSourceId) : Action Scene Nat := do
  return ((← get).work.host.sources.get source).checks

end Scene

end OutlineBar
