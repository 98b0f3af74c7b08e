/-
Idle ticks.

A tick runs the idle hook of every registered window, one after the other, as long
as the idle source allows it and no more of them than the cap says.  A hook that
fails or panics is counted and does not end the tick.  A coordinator subscribes a
round of ticks to the host and takes the subscription back once.
-/
import OutlineBar.Workspace.Walk
import OutlineBar.Workspace.Window

namespace OutlineBar

open Workspace

variable {η : Type} (H : Host η)

/-- Runs the idle hook of a window; answers whether it failed or panicked. -/
def Handle.maintainGuarded (h : Handle) (source : IdleSourceId) : Action (Workspace η) Bool := do
  match ← Action.attempt (h.maintain H source) with
  | .ok (.ok ()) => return false
  | .ok (.error failure) =>
    emit (.idleFault h.window failure)
    return true
  | .error panic =>
    emit (.idlePanic h.window panic)
    return true

def IdleReport.afterVisit (report : IdleReport) (faulted : Bool) : IdleReport :=
  { report with
    visited := report.visited + 1
    faulted := report.faulted + (if faulted then 1 else 0) }

namespace IdleRound

/-- Whether a tick has visited as many windows as it may. -/
def isFull (round : IdleRound) (visited : Nat) : Bool :=
  match round.cap with
  | some cap => decide (cap ≤ visited)
  | none => false

/-- Visits one window, unless the tick has to end before it.  The source is asked
first, whatever the cap. -/
def visit (round : IdleRound) (source : IdleSourceId) (report : IdleReport) (h : Handle) :
    Action (Workspace η) (ForInStep IdleReport) := do
  let allowed ← onHost (H.mayContinue source)
  if !allowed || round.isFull report.visited then
    return .done { report with stoppedEarly := true }
  else
    return .yield (report.afterVisit (← h.maintainGuarded H source))

def run (round : IdleRound) (source : IdleSourceId) : Action (Workspace η) IdleReport := do
  let (_, report) ← walk round.roster {} (round.visit H source)
  emit (.idleTick report)
  return report

end IdleRound

/-- A round of ticks subscribed to the idle ticks of the host. -/
structure IdleCoordinator where
  round : IdleRound
  idleHost : IdleHostId
  /-- The subscription, until it is taken back. -/
  subscription : Option SubscriptionId
  deriving DecidableEq, Repr, Inhabited

namespace IdleCoordinator

def install (round : IdleRound) (idleHost : IdleHostId) : Action (Workspace η) IdleCoordinator := do
  let subscription ← onHost (H.subscribeIdle idleHost round)
  emit (.idleInstalled subscription)
  return { round, idleHost, subscription := some subscription }

def isInstalled (c : IdleCoordinator) : Bool := c.subscription.isSome

/-- Takes the subscription back, if there still is one. -/
def uninstall (c : IdleCoordinator) : Action (Workspace η) IdleCoordinator := do
  if let some subscription := c.subscription then
    onHost (H.unsubscribeIdle c.idleHost subscription)
    emit (.idleUninstalled subscription)
  return { c with subscription := none }

/-- Runs one tick without waiting for the host. -/
def onIdle (c : IdleCoordinator) (source : IdleSourceId) : Action (Workspace η) IdleReport :=
  c.round.run H source

end IdleCoordinator

end OutlineBar
