/-
What a handle on a window can do.

A handle knows its window, the scope it was opened in and its presenter.  It
registers and unregisters under its own identity in the roster of its scope; all
else is an operation of the presenter.
-/
import OutlineBar.Presenter.Attach
import OutlineBar.Presenter.Completions
import OutlineBar.Workspace.Basic

namespace OutlineBar.Handle

open Workspace

variable {η : Type} (H : Host η) (h : Handle)

def register : Action (Workspace η) Unit := do
  let _ ← onBackstage (Backstage.put ((← get).scopes.get h.scope).roster h.window h)

/-- Removes whatever is registered under the window's identity in the roster of its
scope. -/
def unregister : Action (Workspace η) Unit := do
  let _ ← onBackstage (Backstage.remove ((← get).scopes.get h.scope).roster h.window)

def attach : Action (Workspace η) HostStatus := onDesk h.presenter (Desk.attach H)

def detach : Action (Workspace η) HostStatus := onDesk h.presenter (Desk.detach H)

/-- Registers the window, notes its views and, if its scope has bars, attaches one. -/
def adorn : Action (Workspace η) HostStatus := do
  h.register
  onDesk h.presenter (Desk.recordViews H)
  if ((← get).scopes.get h.scope).enabled then
    h.attach H
  else
    emit (.barsDisabled h.window)
    return .ok ()

def unadorn : Action (Workspace η) HostStatus := do
  h.unregister
  h.detach H

/-- Passes on every queued completion; answers how many reached the client. -/
def drain : Action (Workspace η) Nat := onDesk h.presenter (Desk.drain H)

/-- Passes on one completion; answers whether it reached the client. -/
def accept (completion : Completion) : Action (Workspace η) Bool :=
  onDesk h.presenter (Desk.accept H completion)

/-- Asks for a background parse of the current text, which a service is due to make. -/
def requestOutline : Action (Workspace η) Unit := do
  onDesk h.presenter (Desk.requestOutline H)
  modify fun w => w.wake (w.presenterOf h).outliner

/-- Notes a view of the window; answers all views noted so far. -/
def noteView (view : ViewId) : Action (Workspace η) (List ViewId) := do
  onDesk h.presenter (Desk.updatePresenter (·.noteView view))
  return ((← get).presenterOf h).views

def maintain (source : IdleSourceId) : Action (Workspace η) HostStatus := do
  let filters := ((← get).presenterOf h).filters
  onBackstage (H.onIdle filters source)

end OutlineBar.Handle
