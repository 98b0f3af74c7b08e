/-
What a session does to all registered windows.

Turning bars on or off, handing out completions and closing the windows are each one action
per registered handle, performed in the order of the roster, and something that is made of
the answers.  The equations below say so with `List.mapM`; proofs about fan-outs start from
them.
-/
import OutlineBar.Proofs.Action.Each
import OutlineBar.Proofs.Presenter.Steps
import OutlineBar.Session

namespace OutlineBar

open OutlineBar.Action

namespace Workspace

variable {η α : Type} {act : Action (Desk η) α} {id : PresenterId} {w : Workspace η} {d : Desk η}

theorem onDesk_of_ok {a : α} (done : act (w.desk id) = .ok a d) :
    onDesk id act w = .ok a (w.putDesk id d) := zoom_of_ok _ _ done

theorem onDesk_of_error {p : Panic} (failed : act (w.desk id) = .error p d) :
    onDesk id act w = .error p (w.putDesk id d) := zoom_of_error _ _ failed

end Workspace

/-- A walk whose visits never end it visits every handle. -/
theorem visitEach_eq_mapM {σ α β : Type} {visit : β → Handle → Action σ (ForInStep β)}
    {act : Handle → Action σ α} {add : β → α → β}
    (each : ∀ made h, visit made h = do return .yield (add made (← act h)))
    (handles : List Handle) (made : β) :
    Handle.visitEach visit made handles = do
      let answers ← handles.mapM act
      return (handles.length, answers.foldl add made) := by
  induction handles generalizing made with
  | nil => rfl
  | cons h rest ih =>
    simp only [Handle.visitEach, each, ih, List.mapM_cons, bind_assoc, pure_bind, List.length_cons,
      List.foldl_cons]

namespace Handle

variable {η : Type} (H : Host η)

open Workspace

/-- Performs an operation on a window; a failure is noted. -/
def attempt (act : Action (Workspace η) HostStatus) (note : HostFailure → Event) (h : Handle) :
    Action (Workspace η) (Handle × HostStatus) := do
  let status ← act
  if let .error failure := status then
    emit (note failure)
  return (h, status)

/-- Attaches or detaches a window because all windows are. -/
def toggle (enabled : Bool) (h : Handle) : Action (Workspace η) (Handle × HostStatus) :=
  h.attempt (if enabled then h.attach H else h.detach H) (.toggleFailed h.window enabled)

/-- Detaches a window because its session ends. -/
def leave (h : Handle) : Action (Workspace η) (Handle × HostStatus) :=
  h.attempt (h.detach H) (.detachFailedAtEnd h.window)

variable {H} {P : Workspace η → Prop} {h : Handle}

theorem keeps_attempt {act : Action (Workspace η) HostStatus} {noted : HostFailure → Event}
    (tried : Keeps P act) (note : ∀ {w} trace, P w → P { w with trace }) :
    Keeps P (h.attempt act noted) := by
  refine Keeps.bind tried fun status => ?_
  cases status with
  | ok _ => exact Keeps.pure _
  | error failure => exact Keeps.bind (fun _ hw => note _ hw) fun _ => Keeps.pure _

/-- What a change of the window's own desk keeps is kept by attaching and detaching it. -/
theorem keeps_toggle (desk : ∀ w d, P w → P (w.putDesk h.presenter d))
    (note : ∀ {w} trace, P w → P { w with trace }) (enabled : Bool) :
    Keeps P (h.toggle H enabled) := by
  refine keeps_attempt (Keeps.ite (fun _ => ?_) fun _ => ?_) note
  all_goals exact Keeps.zoom fun w hw => desk w _ hw

theorem keeps_leave (desk : ∀ w d, P w → P (w.putDesk h.presenter d))
    (note : ∀ {w} trace, P w → P { w with trace }) : Keeps P (h.leave H) :=
  keeps_attempt (Keeps.zoom fun w hw => desk w _ hw) note

end Handle

/-- The failures among what became of windows, in order. -/
def failuresOf (attempts : List (Handle × HostStatus)) : List (WindowId × HostFailure) :=
  attempts.filterMap fun
    | (h, .error failure) => some (h.window, failure)
    | (_, .ok ()) => none

namespace Workspace

variable {η : Type}

/-- The workspace in which a session has switched its windows on or off. -/
def switched (scope : ScopeId) (enabled : Bool) (w : Workspace η) : Workspace η :=
  { w with scopes := w.scopes.modify scope fun scope => { scope with enabled } }

/-- The workspace after a session took all handles out of its roster. -/
def emptied (scope : ScopeId) (w : Workspace η) : Workspace η :=
  { w with rosters := w.rosters.set (w.scopes.get scope).roster {} }

/-- The handles that are registered with a session. -/
def listed (w : Workspace η) (s : Session) : List Handle := (w.rosterOf s.scope).handles

theorem listed_switched (w : Workspace η) (s : Session) (enabled : Bool) :
    (w.switched s.scope enabled).listed s = w.listed s := by
  simp [listed, switched, rosterOf, Store.modify]

theorem listed_emptied (w : Workspace η) (s : Session) : (w.emptied s.scope).listed s = [] := by
  simp [listed, emptied, rosterOf, Roster.handles]

end Workspace

namespace Session

variable {η : Type} (H : Host η) (s : Session) (w : Workspace η)

open Workspace

theorem toggleWindow_eq (enabled : Bool) (failures : List (WindowId × HostFailure)) (h : Handle) :
    toggleWindow H enabled failures h = do
      let made ← h.toggle H enabled
      return .yield (failures ++ failuresOf [made]) := by
  unfold toggleWindow Handle.toggle Handle.attempt
  cases enabled
  -- Both operations go on in the same way.
  all_goals
    simp only [Bool.false_eq_true, if_false, if_true, bind_assoc]
    congr 1
    funext status
    cases status with
    | ok _ => simp [failuresOf]
    | error failure => simp [failuresOf]

theorem foldl_failuresOf (attempts : List (Handle × HostStatus))
    (failures : List (WindowId × HostFailure)) :
    attempts.foldl (fun failures made => failures ++ failuresOf [made]) failures =
      failures ++ failuresOf attempts := by
  induction attempts generalizing failures with
  | nil => simp [failuresOf]
  | cons made rest ih =>
    rw [List.foldl_cons, ih, List.append_assoc]
    congr 1
    exact List.filterMap_append.symm

/-- What is answered when windows were switched on or off, with these failures. -/
def toggleAnswer (enabled : Bool) (failures : List (WindowId × HostFailure)) :
    Except ToggleError Unit :=
  if failures.isEmpty then .ok () else .error { enabled, failures }

theorem setEnabled_eq (enabled : Bool) :
    s.setEnabled H enabled w =
      (do
        let attempts ← (w.listed s).mapM (Handle.toggle H enabled)
        let failures := failuresOf attempts
        emit (.toggled enabled (w.listed s).length failures.length)
        return toggleAnswer enabled failures) (w.switched s.scope enabled) := by
  have walked : s.setEnabled H enabled w =
      (do
        let reached ← Handle.visitEach (toggleWindow H enabled) []
          ((w.switched s.scope enabled).listed s)
        emit (.toggled enabled reached.1 reached.2.length)
        return toggleAnswer enabled reached.2) (w.switched s.scope enabled) := rfl
  rw [walked, visitEach_eq_mapM (toggleWindow_eq H enabled), listed_switched]
  simp only [bind_assoc, pure_bind, foldl_failuresOf, List.nil_append]

theorem dispatch_eq :
    s.dispatch H w =
      (do
        let counts ← (w.listed s).mapM (Handle.drain H)
        return counts.foldl Nat.add 0) w := by
  have walked : s.dispatch H w =
      (do
        let reached ← Handle.visitEach (dispatchWindow H) 0 (w.listed s)
        return reached.2) w := rfl
  have each : ∀ made h, dispatchWindow H made h = do return .yield (made + (← h.drain H)) :=
    fun _ _ => rfl
  rw [walked, visitEach_eq_mapM each]
  simp only [bind_assoc, pure_bind]
  rfl

theorem detachEach_eq (handles : List Handle) :
    detachEach H handles = do
      let _ ← handles.mapM (Handle.leave H)
      return () := by
  induction handles with
  | nil => rfl
  | cons h rest ih =>
    simp only [detachEach, ih, List.mapM_cons, Handle.leave, Handle.attempt, bind_assoc, pure_bind]
    congr 1
    funext status
    cases status <;> simp

theorem closeWindows_eq :
    s.closeWindows H w =
      (do
        let _ ← (w.listed s).mapM (Handle.leave H)
        return (w.listed s).length) (w.emptied s.scope) := by
  have drained : s.closeWindows H w =
      (do
        detachEach H (w.listed s)
        return (w.listed s).length) (w.emptied s.scope) := rfl
  rw [drained, detachEach_eq]
  simp only [bind_assoc, pure_bind]

/-! ## The end of a session -/

theorem uninstall_eq (c : IdleCoordinator) :
    c.uninstall H w =
      match c.subscription with
      | none => .ok { c with subscription := none } w
      | some subscription =>
        match H.unsubscribeIdle c.idleHost subscription w.host with
        | .error p host => .error p { w with host }
        | .ok () host => .ok { c with subscription := none } { w with
            host
            trace := w.trace ++ [.idleUninstalled subscription] } := by
  unfold IdleCoordinator.uninstall
  cases c.subscription with
  | none => rfl
  | some subscription =>
    simp only [bind_apply, onHost, zoom_apply]
    cases H.unsubscribeIdle c.idleHost subscription w.host <;> rfl

variable {H s w}

theorem subscription_of_uninstall {c c' : IdleCoordinator} {w' : Workspace η}
    (h : c.uninstall H w = .ok c' w') : c'.subscription = none := by
  rw [uninstall_eq] at h
  split at h
  · cases h
    rfl
  · split at h <;> cases h
    rfl

theorem subscription_of_finish {windows : Nat} {idle : IdleCoordinator} {w' : Workspace η}
    (finished : s.finish H windows w = .ok idle w') : idle.subscription = none := by
  obtain ⟨idle', w₁, gone, rest⟩ := bind_eq_ok finished
  obtain ⟨_, w₂, _, rest⟩ := bind_eq_ok rest
  cases rest
  exact subscription_of_uninstall gone

/-- Both ways to end a session come to the same once its windows are closed and its
subscription is given up. -/
theorem end_of_closed {windows : Nat} {idle : IdleCoordinator} {w₁ w₂ : Workspace η}
    (closed : s.closeWindows H w = .ok windows w₁) (gone : s.idle.uninstall H w₁ = .ok idle w₂) :
    let w' := { w₂ with trace := w₂.trace ++ [.sessionEnded windows] }
    s.shutdown H w = .ok windows w' ∧ s.drop H w = .ok () w' := by
  intro w'
  have finished : s.finish H windows w₁ = .ok idle w' := bind_of_ok gone _
  have spent : idle.subscription = none := subscription_of_uninstall gone
  have nothing : ∀ s : Session, s.idle = idle → s.abandon H w' = .ok () w' := by
    rintro s rfl
    have none := uninstall_eq H w' s.idle
    rw [spent] at none
    exact bind_of_ok none _
  have passed (cleanUp : Action (Workspace η) Unit) := onPanic_of_ok closed cleanUp
  constructor
  · refine (bind_of_ok (passed _) _).trans ((bind_of_ok finished _).trans ?_)
    have quiet : letGo H { s with idle } w' = .ok () w' := by
      unfold letGo IdleCoordinator.isInstalled
      rw [spent]
      exact nothing { s with idle } rfl
    exact (bind_of_ok quiet _).trans rfl
  · refine (bind_of_ok (passed _) _).trans ((bind_of_ok finished _).trans ?_)
    exact nothing { s with idle } rfl

end Session

end OutlineBar
