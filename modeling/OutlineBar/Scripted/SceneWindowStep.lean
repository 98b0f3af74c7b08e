/-
Steps that concern one window of a scene.

Some steps work on the window's objects on the stage, the others on its handle; a
window without a handle answers that it has none.
-/
import OutlineBar.Scripted.SceneOpening

namespace OutlineBar.Scene

/-! ## The objects of a window -/

/-- The outline that a scripted outliner publishes for a version. -/
def numberedOutline (version : Nat) : Outline :=
  { version, root := .leaf .root ("v" ++ toString version) ⟨0, 0⟩ }

/-- Publishes a completion to the listeners of the outliner that the window's buffer
brings, if the host keeps it. -/
def publish (window : SceneWindow) (version : Nat) : Action Scene SceneReply := do
  if let some outliner := (← get).hosted? window.buffer then
    onWork (modify fun w => { w with
      outliners := w.outliners.modify outliner fun o =>
        o.withBroadcast (o.broadcast.publish (.of (numberedOutline version))).2 })
  return .nothing

/-- How many listeners there are to the outliner that the window's buffer brings, if the
host keeps it. -/
def listeners (window : SceneWindow) : Action Scene SceneReply := do
  let scene ← get
  return .optionalNumber ((scene.hosted? window.buffer).map fun outliner =>
    (scene.work.outliners.get outliner).broadcast.count.1)

/-- Gives the buffer of a window another text; answers its version.  Without a version
of its own the text gets the next one; versions have 64 bits. -/
def setText (window : SceneWindow) (text : String) (version : Option Nat) :
    Action Scene SceneReply := do
  let old := (← get).work.host.texts.get window.buffer
  let version := version.getD ((old.version + 1) % Nat.pow 2 64)
  updateStage fun s => { s with texts := s.texts.set window.buffer { version, text } }
  return .number version

/-- Gives a window another handle, or takes its handle away. -/
def setHandle (window : SceneWindow) (handle : Option Handle) : Action Scene Unit :=
  modify fun scene => { scene with windows := insertWindow { window with handle } scene.windows }

/-! ## States -/

def clientLabel (window : SceneWindow) : ClientId → ClientLabel
  | .made factory serial => if factory = window.factory then .own serial else .elsewhere
  | .foreign _ => .elsewhere

def windowState (scene : Scene) (window : SceneWindow) (h : Handle) : WindowState :=
  let p := scene.work.presenterOf h
  let bag := (scene.work.buffers.get window.buffer).bag
  { window := h.window
    attached := p.isAttached
    client := p.client.map (clientLabel window)
    views := p.views
    property := (bag.get? BufferProperty.attachedBar).map (clientLabel window)
    properties := bag.size
    bagDescription := bag.description
    bar := (scene.work.host.shells.get window.shell).bar.map (clientLabel window)
    usesInstalledOutliner := bag.get? BufferProperty.installedOutliner == some p.outliner }

/-! ## The handle of a window -/

/-- What is registered under an identity, compared with the handle of the window. -/
def lookUp (window : SceneWindow) (scope : String) (id : WindowId) : Action Scene SceneReply := do
  match ((← get).rosterOf scope).get? id, window.handle with
  | none, _ => return .nothing
  | some entry, none => return .number entry.window.number
  | some entry, some h => return .entry entry.window (entry.presenter == h.presenter)

/-- Registers a handle under an identity; answers the window of the one it replaces. -/
def enter (h : Handle) (scope : String) (id : WindowId) : Action Scene SceneReply := do
  let roster := (← get).rosterIdOf scope
  let previous ← onWork (Workspace.onBackstage (Backstage.put roster id h))
  return .optionalNumber (previous.map fun h => h.window.number)

open Stage in
/-- Performs a step that needs the handle of its window. -/
def handleStep (window : SceneWindow) (h : Handle) : WindowStep → Action Scene SceneReply
  | .adorn => return .status (← onWork (h.adorn host))
  | .unadorn => return .status (← onWork (h.unadorn host))
  | .attach => return .status (← onWork (h.attach host))
  | .detach => return .status (← onWork (h.detach host))
  | .register => do
    onWork h.register
    return .nothing
  | .unregister => do
    onWork h.unregister
    return .nothing
  | .enter scope id => enter h scope (id.getD h.window)
  | .noteView view => return .numbers ((← onWork (h.noteView view)).map ViewId.number)
  | .drain => return .number (← onWork (h.drain host))
  | .requestOutline => do
    onWork (h.requestOutline host)
    return .nothing
  | .accept version source =>
    let completion : Completion := { version := source, outline := numberedOutline version }
    return .flag (← onWork (h.accept host completion))
  | .maintain budget => return .status (← onWork (h.maintain host (← newSource budget)))
  | .state => return .windowState ((← get).windowState window h)
  | _ => return .nothing

def windowStep (window : SceneWindow) : WindowStep → Action Scene SceneReply
  | .setKnob name knob => do
    updateStage fun s => { s with owners := s.owners.modify window.owner (Owner.setKnob name knob) }
    return .nothing
  | .setText text version => setText window text version
  | .foreignBar => do
    onStage (Stage.setBar window.shell (some (.foreign window.owner.index)))
    return .nothing
  | .publish version => publish window version
  | .listeners => listeners window
  | .close => do
    setHandle window none
    return .nothing
  | .adopt scope id => do
    let entry := ((← get).rosterOf scope).get? id
    setHandle window entry
    return .flag entry.isSome
  | .lookUp scope id => lookUp window scope id
  | .other => return .nothing
  | step =>
    match window.handle with
    | some h => handleStep window h step
    | none => return .noHandle

end OutlineBar.Scene
