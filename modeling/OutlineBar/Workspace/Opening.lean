/-
Opening a window.

A new window needs an outliner for its buffer and two filters on its text view,
in this order, and nothing of the library changes when one of them is refused.
After that the presenter listens to its outliner for as long as it lives.  It is
neither registered nor attached yet.
-/
import OutlineBar.Workspace.Basic

namespace OutlineBar

/-- Where the outliner of a new window comes from: the rule of a resolver, or the
host. -/
inductive OutlinerSource where
  | rule (resolver : Resolver)
  | host (resolver : ResolverId)

/-- What the host supplies for a new window. -/
structure WindowParts where
  window : WindowId
  /-- The text view that the filters are put on. -/
  view : ViewId
  buffer : BufferId
  shell : ShellId
  bars : BarManagerId
  factory : FactoryId
  filters : FiltersId
  source : OutlinerSource

/-- Why a window cannot be opened. -/
inductive OpenError where
  | noOutliner (window : WindowId) (cause : ResolveError)
  | host (failure : HostFailure)
  deriving DecidableEq, Repr

def OpenError.message : OpenError → String
  | noOutliner window cause => "no tokenizer for " ++ window.label ++ ": " ++ cause.message
  | host failure => failure.message

namespace Workspace

variable {η : Type} (H : Host η)

def createOutliner (contentType : String) (grammar : Grammar) :
    Action (Workspace η) OutlinerId := do
  emit (.outlinerCreated contentType)
  emit .loopStarted
  addOutliner (.background (.start grammar))

def resolveOutliner (source : OutlinerSource) (buffer : BufferId) :
    Action (Workspace η) (Except ResolveError OutlinerId) := do
  match source with
  | .host resolver => onHost (H.resolve resolver buffer)
  | .rule resolver =>
    let b := (← get).buffers.get buffer
    match resolver.resolve b.contentType (b.bag.get? .installedOutliner) with
    | .error cause => return .error cause
    | .ok (.installed outliner) => return .ok outliner
    | .ok (.create grammar) => return .ok (← createOutliner b.contentType grammar)

/-- Puts both filters on a view, the second only after the first. -/
def attachFilters (filters : FiltersId) (view : ViewId) : Action (Workspace η) HostStatus := do
  match ← onHost (H.filterKeyboard filters view) with
  | .error failure => return .error failure
  | .ok () => onHost (H.filterView filters view)

def subscribe (outliner : OutlinerId) : Action (Workspace η) ListenerId := do
  if let .hosted _ := (← get).outliners.get outliner then
    onHost (H.subscribe outliner)
  let w ← get
  let (listener, changed) := (w.outliners.get outliner).subscribe
  set { w with outliners := w.outliners.set outliner changed }
  return listener

/-- Adds the presenter of a window and gives out a handle on it. -/
def addPresenter (parts : WindowParts) (scope : ScopeId) (outliner : OutlinerId)
    (listener : ListenerId) : Action (Workspace η) Handle := fun w =>
  let (presenter, presenters) := w.presenters.add {
    window := parts.window
    buffer := parts.buffer
    shell := parts.shell
    bars := parts.bars
    factory := parts.factory
    filters := parts.filters
    outliner
    listener
    priority := (w.scopes.get scope).options.bar.priority }
  .ok { window := parts.window, scope, presenter } { w with presenters }

def openWindow (parts : WindowParts) (scope : ScopeId) :
    Action (Workspace η) (Except OpenError Handle) := do
  match ← resolveOutliner H parts.source parts.buffer with
  | .error cause =>
    let contentType := ((← get).buffers.get parts.buffer).contentType
    emit (.outlinerUnavailable parts.window contentType cause.message)
    return .error (.noOutliner parts.window cause)
  | .ok outliner =>
    match ← attachFilters H parts.filters parts.view with
    | .error failure => return .error (.host failure)
    | .ok () =>
      let listener ← subscribe H outliner
      emit (.created parts.window parts.view)
      return .ok (← addPresenter parts scope outliner listener)

end Workspace

end OutlineBar
