/-
Attaching and detaching the bar of a window.

Attaching always starts from a window without a bar: the presenter's own client is
detached first, and a bar that the host still shows is removed.  The new client
counts as attached only when the host has taken it.  Detaching forgets the client
before it asks the host to remove the bar, so that a host that refuses leaves the
presenter ready for the next bar all the same.
-/
import OutlineBar.Presenter.Basic

namespace OutlineBar.Desk

variable {η : Type} (H : Host η)

/-- Parses a snapshot with the presenter's outliner while the caller waits. -/
def outlineOf (snapshot : Snapshot) : Action (Desk η) Outline := do
  let d ← get
  match d.outliner with
  | .hosted _ => onHost (H.parse d.presenter.outliner snapshot)
  | .background service =>
    let (outline, service) := service.parseNow snapshot
    set { d with outliner := .background service }
    Action.ofExcept outline

/-- Detaches the client, if there is one, and has its bar removed. -/
def detach : Action (Desk η) HostStatus := do
  let p := (← get).presenter
  match p.client with
  | none => return .ok ()
  | some client =>
    updatePresenter fun p => { p with client := none }
    onHost (H.unregisterClient client)
    updatePresenter fun p => { p with shown := none }
    modify fun d => { d with bag := (d.bag.remove .attachedBar).2 }
    emit (.detached p.window)
    onHost (H.removeBar p.bars)

/-- Detaches the presenter's own client before another one is attached.  That the
host failed to remove its bar is only noted. -/
def detachPrevious : Action (Desk η) Unit := do
  let p := (← get).presenter
  if p.isAttached then
    match ← detach H with
    | .ok () => pure ()
    | .error failure => emit (.staleBarNotRemoved p.window failure)

/-- Removes the bar that the host shows, if it says that it shows one. -/
def clearSlot : Action (Desk η) HostStatus := do
  let p := (← get).presenter
  match ← onHost (H.barSlot p.bars) with
  | .ok (some slot) =>
    match ← onHost (H.removeBar p.bars) with
    | .ok () => return .ok ()
    | .error failure =>
      emit (.occupantNotRemoved p.window slot failure)
      return .error failure
  | _ => return .ok ()

/-- Makes a client for the current text of the buffer and offers it to the host. -/
def offerClient : Action (Desk η) HostStatus := do
  let p := (← get).presenter
  let snapshot ← onHost (H.snapshot p.buffer)
  let outline ← outlineOf H snapshot
  let client ← onHost (H.createClient p.factory p.window outline)
  match ← onHost (H.addBar p.bars p.priority client) with
  | .error failure =>
    onHost (H.unregisterClient client)
    emit (.attachFailed p.window failure)
    return .error failure
  | .ok () =>
    modify fun d => { d with bag := (d.bag.insert .attachedBar client).2 }
    updatePresenter fun p => { p with client := some client, shown := some snapshot.version }
    emit (.attached p.window snapshot.version)
    return .ok ()

/-- Attaches a fresh bar that shows the current text of the buffer. -/
def attach : Action (Desk η) HostStatus := do
  detachPrevious H
  match ← clearSlot H with
  | .error failure => return .error failure
  | .ok () => offerClient H

end OutlineBar.Desk
