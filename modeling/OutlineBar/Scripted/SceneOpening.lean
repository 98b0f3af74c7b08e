/-
Opening a window of a scene.

The objects that the window does not share with another are made first, for an owner
of its own; then the window is opened in its scope.  A window of the same name is
replaced, and keeps its handle until then.
-/
import OutlineBar.Scripted.Scene

namespace OutlineBar.Scene

def shared? {α : Type} (scene : Scene) (name : Option String) (part : SceneWindow → α) : Option α :=
  (name.bind scene.window?).map part

/-- The outliner that a buffer brings. -/
def installed? (scene : Scene) (buffer : BufferId) : Option OutlinerId :=
  (scene.work.buffers.get buffer).bag.get? BufferProperty.installedOutliner

/-- The outliner that a buffer brings, if it is one that the host keeps. -/
def hosted? (scene : Scene) (buffer : BufferId) : Option OutlinerId :=
  (scene.installed? buffer).filter fun id =>
    match scene.work.outliners.get id with
    | .hosted _ => true
    | .background _ => false

def newOwner (knobs : List (String × Option Knob)) : Action Scene OwnerId :=
  onStage fun s =>
    let owner := knobs.foldl (fun (owner : Owner) (name, knob) => owner.setKnob name knob) {}
    let (id, owners) := s.owners.add owner
    .ok id { s with owners }

def newHosted (owner : OwnerId) : Action Scene OutlinerId := do
  let id ← onWork (Workspace.addOutliner (.hosted {}))
  updateStage fun s => { s with outliners := s.outliners.set id owner }
  return id

def newService : Action Scene OutlinerId := onWork do
  Workspace.emit .loopStarted
  Workspace.addOutliner (.background (.start .functionLines))

/-- The outliner that the new buffer of a window brings. -/
def outlinerFor (opening : Opening) (owner : OwnerId) : Action Scene (Option OutlinerId) := do
  match opening.installed with
  | .none => return none
  | .service => return some (← newService)
  | .scripted =>
    let scene ← get
    match (scene.shared? opening.shared.outliner SceneWindow.buffer).bind scene.hosted? with
    | some outliner => return some outliner
    | none => return some (← newHosted owner)

def bufferFor (opening : Opening) (owner : OwnerId) : Action Scene BufferId := do
  match (← get).shared? opening.shared.buffer SceneWindow.buffer with
  | some buffer => return buffer
  | none =>
    let bag : BufferBag :=
      match ← outlinerFor opening owner with
      | some outliner => (Bag.empty.insert .installedOutliner outliner).2
      | none => .empty
    let buffer ← onWork fun w =>
      let (id, buffers) := w.buffers.add { contentType := opening.contentType, bag }
      .ok id { w with buffers }
    updateStage fun s => { s with texts := s.texts.set buffer opening.snapshot }
    return buffer

def shellFor (opening : Opening) (owner : OwnerId) : Action Scene ShellId := do
  match (← get).shared? opening.shared.shell SceneWindow.shell with
  | some shell => return shell
  | none =>
    onStage fun s =>
    let (id, shells) := s.shells.add {
      owner, primary := opening.primary, secondary := opening.secondary, slot := opening.slot }
    .ok id { s with shells }

def factoryFor (opening : Opening) (owner : OwnerId) : Action Scene FactoryId := do
  match (← get).shared? opening.shared.factory SceneWindow.factory with
  | some factory => return factory
  | none =>
    onStage fun s =>
    let (id, factories) := s.factories.add { owner }
    .ok id { s with factories }

def addFilters (filters : FilterSet) : Action Scene FiltersId :=
  onStage fun s =>
    let (id, stored) := s.filters.add filters
    .ok id { s with filters := stored }

/-- The filters of a window; new ones work on the roster of its scope when idle. -/
def filtersFor (opening : Opening) (owner : OwnerId) : Action Scene FiltersId := do
  match (← get).shared? opening.shared.filters SceneWindow.filters with
  | some filters => return filters
  | none => addFilters { owner, roster := (← get).rosterIdOf opening.scope }

/-- The filters that the presenter of a window gets: those of the window, or plain ones
that behave like them until they are idle. -/
def filtersToUse (opening : Opening) (filters : FiltersId) : Action Scene FiltersId := do
  if opening.plainFilters then
    addFilters { (← get).work.host.filters.get filters with plain := true }
  else
    return filters

def openWindow (opening : Opening) : Action Scene SceneReply := do
  let owner ← newOwner opening.knobs
  let buffer ← bufferFor opening owner
  let shell ← shellFor opening owner
  let factory ← factoryFor opening owner
  let filters ← filtersFor opening owner
  let used ← filtersToUse opening filters
  let scene ← get
  let scope := scene.scopeOf opening.scope
  let result ← onWork (Workspace.openWindow Stage.host {
    window := opening.window
    view := opening.view
    buffer
    shell
    bars := ⟨shell.index⟩
    factory
    filters := used
    source := .rule {
      language := (scene.work.scopes.get scope).options.bar.language
      grammar := if opening.hasGrammar then some .functionLines else none } } scope)
  let window : SceneWindow := { name := opening.name, owner, buffer, shell, factory, filters }
  let put (window : SceneWindow) : Action Scene Unit :=
    modify fun scene => { scene with windows := insertWindow window scene.windows }
  match result with
  | .ok handle =>
    put { window with handle := some handle }
    return .opened handle
  | .error error =>
    put window
    return .refused error

end OutlineBar.Scene
