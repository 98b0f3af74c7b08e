/-
Completions: how finished parses reach the attached client.

A completion is passed on unless there is no client or the client already shows a
later version.  Draining takes completions from the queue one by one, so that a
client that panics on one leaves the others for the next drain.
-/
import OutlineBar.Presenter.Basic

namespace OutlineBar.Desk

variable {η : Type} (H : Host η)

/-- Passes a completion on to the client; answers whether it got there. -/
def accept (completion : Completion) : Action (Desk η) Bool := do
  let p := (← get).presenter
  match p.client with
  | none =>
    emit (.completionWithoutBar p.window completion.version)
    return false
  | some client =>
    match p.shown.filter fun shown => completion.version < shown with
    | some shown =>
      emit (.staleCompletion p.window completion.version shown)
      return false
    | none =>
      updatePresenter fun p => { p with shown := some completion.version }
      onHost (H.updateClient client completion.outline)
      return true

/-- Takes the oldest completion from the presenter's queue. -/
def takeCompletion : Action (Desk η) (Option Completion) := do
  let d ← get
  match d.outliner.take? d.presenter.listener with
  | none => return none
  | some (completion, outliner) =>
    set { d with outliner }
    return some completion

/-- Passes on at most `bound` completions; answers how many reached the client. -/
def drainUpTo : (bound : Nat) → Action (Desk η) Nat
  | 0 => return 0
  | bound + 1 => do
    match ← takeCompletion with
    | none => return 0
    | some completion =>
      let accepted ← accept H completion
      let more ← drainUpTo bound
      return more + (if accepted then 1 else 0)

/-- Passes on every queued completion; answers how many reached the client. -/
def drain : Action (Desk η) Nat := do
  let d ← get
  drainUpTo H (d.outliner.broadcast.queue d.presenter.listener).length

def requestOutline : Action (Desk η) Unit := do
  let p := (← get).presenter
  let snapshot ← onHost (H.snapshot p.buffer)
  let d ← get
  match d.outliner with
  | .hosted _ => onHost (H.requestParse p.outliner snapshot)
  | .background service =>
    set { d with outliner := Outliner.background (service.request snapshot) }
    emit (.parseRequested snapshot.version)

/-- Notes the views that the window shell reports.  A window that is not split has no
second view. -/
def recordViews : Action (Desk η) Unit := do
  let p := (← get).presenter
  if let .ok view ← onHost (H.primaryView p.shell) then
    updatePresenter (·.noteView view)
  if let .ok view ← onHost (H.secondaryView p.shell) then
    updatePresenter (·.noteView view)

end OutlineBar.Desk
