/-
Sessions.

A session owns a scope and the idle subscription for its roster.  It turns the bars
of all registered windows on and off, hands out completions, and at its end detaches
every registered window.  There are two ways to end it.  A shutdown hands the session
over, so it goes out of hand at the end of the shutdown as one that was dropped does; that
it has no idle subscription any more tells that it was ended.  The two ways differ only
when a window's client panics: dropping the session then gives up the idle subscription and
nothing more, while a shutdown first tries to end the session once again.
-/
import OutlineBar.Workspace.Idle
import OutlineBar.Workspace.Opening

namespace OutlineBar

structure Session where
  scope : ScopeId
  idle : IdleCoordinator
  deriving DecidableEq, Repr, Inhabited

/-- Windows that did not follow when all bars were turned on or off. -/
structure ToggleError where
  enabled : Bool
  failures : List (WindowId × HostFailure)
  deriving DecidableEq, Repr

/-- The text of a toggle that some windows did not follow. -/
def ToggleError.message (error : ToggleError) : String :=
  "failed to " ++ (if error.enabled then "enable" else "disable") ++
    " the navigation bar in " ++ toString error.failures.length ++ " window(s)"

namespace Session

open Workspace

variable {η : Type} (H : Host η)

def start (options : Options) (idleHost : IdleHostId) : Action (Workspace η) Session := do
  let roster ← addRoster
  let scope ← addScope (.ofOptions options roster)
  let idle ← IdleCoordinator.install H { roster, cap := options.idle.cap } idleHost
  emit (.sessionStarted options.bar.enabled)
  return { scope, idle }

def openWindow (s : Session) (parts : WindowParts) :
    Action (Workspace η) (Except OpenError Handle) :=
  Workspace.openWindow H parts s.scope

def roster (s : Session) : Action (Workspace η) RosterId := do
  return ((← get).scopes.get s.scope).roster

def isEnabled (s : Session) : Action (Workspace η) Bool := do
  return ((← get).scopes.get s.scope).enabled

/-! ## All windows at once -/

/-- Attaches or detaches one window, and adds its failure to those before it. -/
def toggleWindow (enabled : Bool) (failures : List (WindowId × HostFailure)) (h : Handle) :
    Action (Workspace η) (ForInStep (List (WindowId × HostFailure))) := do
  match ← if enabled then h.attach H else h.detach H with
  | .ok () => return .yield failures
  | .error failure =>
    emit (.toggleFailed h.window enabled failure)
    return .yield (failures ++ [(h.window, failure)])

/-- Turns the bars of all registered windows on or off.  Every window is tried even
when some fail. -/
def setEnabled (s : Session) (enabled : Bool) : Action (Workspace η) (Except ToggleError Unit) := do
  modify fun w => { w with scopes := w.scopes.modify s.scope fun scope => { scope with enabled } }
  let (visited, failures) ← walk (← s.roster) [] (toggleWindow H enabled)
  emit (.toggled enabled visited failures.length)
  return if failures.isEmpty then .ok () else .error { enabled, failures }

/-- Passes the completions of one window on, and adds how many reached its client. -/
def dispatchWindow (forwarded : Nat) (h : Handle) : Action (Workspace η) (ForInStep Nat) := do
  return .yield (forwarded + (← h.drain H))

/-- Passes on the completions of all registered windows; answers how many reached a
client. -/
def dispatch (s : Session) : Action (Workspace η) Nat := do
  let (_, forwarded) ← walk (← s.roster) 0 (dispatchWindow H)
  return forwarded

/-- Runs one idle tick without waiting for the host. -/
def onIdle (s : Session) (source : IdleSourceId) : Action (Workspace η) IdleReport :=
  s.idle.onIdle H source

/-! ## The end of a session -/

/-- Detaches the windows of a list.  A failure is only noted. -/
def detachEach : List Handle → Action (Workspace η) Unit
  | [] => return ()
  | h :: rest => do
    if let .error failure ← h.detach H then
      emit (.detachFailedAtEnd h.window failure)
    detachEach rest

/-- Empties the roster and detaches the windows that were in it; answers how many there
were. -/
def closeWindows (s : Session) : Action (Workspace η) Nat := do
  let handles ← onBackstage (Backstage.drain (← s.roster))
  detachEach H handles
  return handles.length

/-- Gives up the idle subscription after `windows` windows were detached; answers the
coordinator without it. -/
def finish (s : Session) (windows : Nat) : Action (Workspace η) IdleCoordinator := do
  let idle ← s.idle.uninstall H
  emit (.sessionEnded windows)
  return idle

/-- Gives up the idle subscription, if there still is one, without a word about the
session. -/
def abandon (s : Session) : Action (Workspace η) Unit := do
  let _ ← s.idle.uninstall H

/-- Ends the session because nobody holds it any more. -/
def drop (s : Session) : Action (Workspace η) Unit := do
  let windows ← Action.onPanic (s.closeWindows H) (s.abandon H)
  let idle ← s.finish H windows
  abandon H { s with idle }

/-- What becomes of a session that goes out of hand: as long as it has its idle
subscription nobody ended it, and it is ended now. -/
def letGo (s : Session) : Action (Workspace η) Unit :=
  if s.idle.isInstalled then s.drop H else s.abandon H

/-- Ends the session on demand; answers how many windows were detached.  The session goes
out of hand then, also if a window panics. -/
def shutdown (s : Session) : Action (Workspace η) Nat := do
  let windows ← Action.onPanic (s.closeWindows H) (s.letGo H)
  let idle ← s.finish H windows
  letGo H { s with idle }
  return windows

end Session

end OutlineBar
