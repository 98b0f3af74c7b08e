/-
What can happen to a workspace, in any order.

An `Operation` is a call of the library, a move of a service's loop, or something that the
host does by itself, such as an edit.  A call may end in a panic, and goes on from the
state that the panic left.  `Reaches` says which states operations can lead to, and
`Reaches.invariant` that they all satisfy what every operation keeps.
-/
import OutlineBar.Proofs.Host.Recorded
import OutlineBar.Session

namespace OutlineBar

/-- What can be done with a window. -/
inductive WindowOperation where
  | register
  | unregister
  | adorn
  | unadorn
  | attach
  | detach
  | accept (completion : Completion)
  | drain
  | requestOutline
  | noteView (view : ViewId)
  | maintain (source : IdleSourceId)

/-- Whether an operation is one of those that outlines pass through. -/
def WindowOperation.concernsOutlines : WindowOperation → Bool
  | attach | detach | drain | requestOutline => true
  | _ => false

/-- What can be done with a session. -/
inductive SessionOperation where
  | setEnabled (enabled : Bool)
  | dispatch
  | tick (source : IdleSourceId)
  | shutdown
  | drop

/-- Whether an operation ends the session. -/
def SessionOperation.isEnding : SessionOperation → Bool
  | shutdown | drop => true
  | _ => false

/-- What happens to an outliner without a window. -/
inductive OutlinerOperation where
  | loop (move : LoopMove)
  /-- A request that no window made. -/
  | request (snapshot : Snapshot)
  /-- A completion of an outliner that belongs to the host. -/
  | announce (completion : Completion)
  | shutdown
  /-- From now on the grammar behaves like this. -/
  | turnGrammar (grammar : Grammar)

/-- Whether an operation is something that a service or its grammar does by itself. -/
def OutlinerOperation.isOwn : OutlinerOperation → Bool
  | loop _ | shutdown | turnGrammar _ => true
  | _ => false

/-- What can happen to a workspace. -/
inductive Operation (η : Type) where
  | openWindow (parts : WindowParts) (scope : ScopeId)
  | window (h : Handle) (operation : WindowOperation)
  | session (s : Session) (operation : SessionOperation)
  | outliner (id : OutlinerId) (operation : OutlinerOperation)
  /-- Something that the host does by itself. -/
  | host (change : η → η)

section
variable {η : Type} (H : Host η)

open Workspace

/-- Performs an operation of a window, whatever it answers. -/
def WindowOperation.perform (h : Handle) : WindowOperation → Action (Workspace η) Unit
  | register => h.register
  | unregister => h.unregister
  | adorn => do let _ ← h.adorn H
  | unadorn => do let _ ← h.unadorn H
  | attach => do let _ ← h.attach H
  | detach => do let _ ← h.detach H
  | accept completion => do let _ ← h.accept H completion
  | drain => do let _ ← h.drain H
  | requestOutline => h.requestOutline H
  | noteView view => do let _ ← h.noteView view
  | maintain source => do let _ ← h.maintain H source

/-- Performs an operation of a session, whatever it answers. -/
def SessionOperation.perform (s : Session) : SessionOperation → Action (Workspace η) Unit
  | setEnabled enabled => do let _ ← s.setEnabled H enabled
  | dispatch => do let _ ← s.dispatch H
  | tick source => do let _ ← s.onIdle H source
  | shutdown => do let _ ← s.shutdown H
  | drop => s.drop H

/-- A service after an operation, and the events of the operation. -/
def OutlinerOperation.onService : OutlinerOperation → Service → Service × List Event
  | loop m, s => (s.move? m).getD (s, [])
  | request snapshot, s => (s.request snapshot, [.parseRequested snapshot.version])
  | announce _, s => (s, [])
  | shutdown, s => (s.shutdown, [])
  | turnGrammar grammar, s => ({ s with grammar }, [])

/-- An outliner after an operation, and the events of the operation.  Nothing but
completions comes from an outliner that belongs to the host. -/
def OutlinerOperation.onOutliner (operation : OutlinerOperation) : Outliner → Outliner × List Event
  | .background service =>
    let (service, events) := operation.onService service
    (.background service, events)
  | .hosted broadcast =>
    match operation with
    | announce completion => (.hosted (broadcast.publish completion).2, [])
    | _ => (.hosted broadcast, [])

/-- Performs an operation of an outliner. -/
def OutlinerOperation.perform (id : OutlinerId) (operation : OutlinerOperation) :
    Action (Workspace η) Unit :=
  modify fun w =>
    let (outliner, events) := operation.onOutliner (w.outliners.get id)
    { w with outliners := w.outliners.set id outliner, trace := w.trace ++ events }

/-- Performs an operation on a workspace whose host records its calls. -/
def Operation.perform : Operation η → Action (Workspace (Recorded η)) Unit
  | openWindow parts scope => do let _ ← Workspace.openWindow (H.recorded none) parts scope
  | window h operation => operation.perform (H.recorded (some h.presenter)) h
  | session s operation => operation.perform (H.recorded none) s
  | outliner id operation => operation.perform id
  | host change => modify fun w => { w with host := { w.host with host := change w.host.host } }

/-- The handles that an operation finds. -/
def Operation.handles (w : Workspace (Recorded η)) : Operation η → List Handle
  | window h _ => [h]
  | session s _ => (w.rosterOf s.scope).handles
  | _ => []

/-- Whether a handle is on a presenter that was opened. -/
def Workspace.Knows (w : Workspace η) (h : Handle) : Prop := h.presenter.index < w.presenters.size

instance {w : Workspace η} {h : Handle} : Decidable (w.Knows h) :=
  inferInstanceAs (Decidable (_ < _))

/-- The states to which allowed operations can lead. -/
inductive Reaches (allows : Workspace (Recorded η) → Operation η → Prop)
    (start : Workspace (Recorded η)) : Workspace (Recorded η) → Prop where
  | start : Reaches allows start start
  | step {w : Workspace (Recorded η)} (reached : Reaches allows start w)
      (operation : Operation η) (allowed : allows w operation) :
      Reaches allows start ((operation.perform H).after w)

variable {H}

/-- What holds at the start and is kept by every allowed operation holds in every state
reached. -/
theorem Reaches.invariant {allows : Workspace (Recorded η) → Operation η → Prop}
    {start w : Workspace (Recorded η)} (reached : Reaches H allows start w)
    {P : Workspace (Recorded η) → Prop} (base : P start)
    (step : ∀ w operation, P w → allows w operation → P ((operation.perform H).after w)) : P w := by
  induction reached with
  | start => exact base
  | step reached operation allowed ih => exact step _ operation ih allowed

end

end OutlineBar
