/-
What the operations of windows and sessions keep.

All that windows and sessions do is made of a few things: events, outliners that are woken, calls
to the host, and work of presenters on their desks.  A predicate on workspaces is `Stable` if it
is kept by these, as far as it allows the calls and the work.  Every operation is gone through
once below and says which calls and which work it takes, so another module only has to choose
what its predicate allows.

Rosters, scopes, new outliners and idle hooks are different: what a predicate makes of them is a
hypothesis of the operations that change or run them.
-/
import OutlineBar.Proofs.Outliner.Resolver
import OutlineBar.Proofs.Presenter.Upheld
import OutlineBar.Proofs.Session.FanOut
import OutlineBar.Proofs.Workspace.Operation

namespace OutlineBar

open OutlineBar.Action

variable {η : Type} {H : Host η}

/-- What the visits keep is kept by visiting. -/
theorem keeps_visitEach {σ β : Type} {P : σ → Prop}
    {visit : β → Handle → Action σ (ForInStep β)} {handles : List Handle}
    (each : ∀ made, ∀ h ∈ handles, Keeps P (visit made h)) (made : β) :
    Keeps P (Handle.visitEach visit made handles) := by
  induction handles generalizing made with
  | nil => exact Keeps.pure _
  | cons h rest ih =>
    refine Keeps.bind (each made h List.mem_cons_self) fun next => ?_
    cases next with
    | done made => exact Keeps.pure _
    | yield made =>
      refine Keeps.bind (ih (fun made h mem => each made h (List.mem_cons_of_mem _ mem)) made) ?_
      exact fun _ => Keeps.pure _

/-! ## What operations take -/

/-- What an operation of a window does on the desk of its presenter, if that is all it does. -/
def WindowOperation.desk? : WindowOperation → Option DeskOperation
  | attach => some .attach
  | detach => some .detach
  | accept completion => some (.accept completion)
  | drain => some .drain
  | requestOutline => some .requestOutline
  | noteView view => some (.noteView view)
  | _ => none

/-- All that an operation of a window does on the desk of its presenter. -/
def WindowOperation.work : WindowOperation → List DeskOperation
  | adorn => [.recordViews, .attach]
  | unadorn => [.detach]
  | operation => operation.desk?.toList

/-- What an operation of a window does to the roster of its scope, and does first. -/
def WindowOperation.roll {η : Type} (h : Handle) : WindowOperation → Action (Workspace η) Unit
  | register | adorn => h.register
  | unregister | unadorn => h.unregister
  | _ => pure ()

/-- What an operation of a session does on the desks of its windows. -/
def SessionOperation.work : SessionOperation → List DeskOperation
  | setEnabled _ => [.attach, .detach]
  | dispatch => [.drain]
  | tick _ => []
  | shutdown | drop => [.detach]

/-- Whether a call is one of those that it takes to open a window. -/
def HostCall.isOpening : HostCall → Bool
  | .resolve .. | .filterKeyboard .. | .filterView .. | .subscribe _ => true
  | _ => false

/-- Whether the call by which a coordinator gives its subscription up, if it still has one, is
among these. -/
def IdleCoordinator.GivesUpBy (calls : HostCall → Prop) (c : IdleCoordinator) : Prop :=
  ∀ subscription, c.subscription = some subscription →
    calls (.unsubscribeIdle c.idleHost subscription)

theorem IdleCoordinator.GivesUpBy.of_spent {calls : HostCall → Prop} {c : IdleCoordinator}
    (spent : c.subscription = none) : c.GivesUpBy calls := by
  intro subscription held
  rw [spent] at held
  cases held

/-- Whether a presenter was just opened with these parts. -/
structure Presenter.IsNew (parts : WindowParts) (p : Presenter) : Prop where
  window : p.window = parts.window
  buffer : p.buffer = parts.buffer
  bars : p.bars = parts.bars
  factory : p.factory = parts.factory
  client : p.client = none
  shown : p.shown = none

namespace Workspace

/-- Whether a predicate on workspaces is kept by events and when outliners are woken, by these
calls to the host, and by this work on desks. -/
structure Stable (H : Host η) (calls : HostCall → Prop)
    (works : PresenterId → DeskOperation → Prop) (P : Workspace η → Prop) : Prop where
  note : ∀ {w} trace, P w → P { w with trace }
  wake : ∀ {w} due, P w → P { w with due }
  call : ∀ {w call}, calls call → P w → P { w with host := (H.answer call).after w.host }
  desk : ∀ {w id operation}, works id operation → P w →
    P (w.putDesk id (operation.leaves H (w.desk id)))

namespace Stable

variable {calls : HostCall → Prop} {works : PresenterId → DeskOperation → Prop}
  {P : Workspace η → Prop} {w : Workspace η}

/-- What an idle hook keeps is kept by a window that runs it. -/
theorem keeps_maintain {source : IdleSourceId}
    (hooks : ∀ filters, Keeps P (onBackstage (H.onIdle filters source))) (handle : Handle) :
    Keeps P (handle.maintain H source) :=
  Keeps.get_bind fun w hw => hooks _ w hw

/-- What entering windows into rosters and taking them out keeps. -/
theorem keeps_roll {handle : Handle} (entered : Keeps P handle.register)
    (taken : Keeps P handle.unregister) (operation : WindowOperation) :
    Keeps P (operation.roll handle) := by
  cases operation with
  | register | adorn => exact entered
  | unregister | unadorn => exact taken
  | _ => exact Keeps.pure _

variable (h : Stable H calls works P)
include h

theorem keeps_emit (event : Event) : Keeps P (emit event) := fun _ hw => h.note _ hw

theorem wakes (id : OutlinerId) (hw : P w) : P (w.wake id) := by
  unfold Workspace.wake
  split
  · exact hw
  · exact h.wake _ hw

theorem keeps_call (call : HostCall) (allowed : calls call) :
    Keeps P (onHost (H.answer call)) :=
  Keeps.zoom fun _ hw => h.call allowed hw

theorem keeps_onDesk {α : Type} {id : PresenterId} {act : Action (Desk η) α}
    (operation : DeskOperation) (same : ∀ d, act.after d = operation.leaves H d)
    (mine : works id operation) : Keeps P (onDesk id act) := by
  refine Keeps.zoom fun w hw => ?_
  rw [same]
  exact h.desk mine hw

/-! ### Windows -/

section
variable {handle : Handle}

theorem keeps_attach (mine : works handle.presenter .attach) : Keeps P (handle.attach H) :=
  h.keeps_onDesk .attach (fun _ => rfl) mine

theorem keeps_detach (mine : works handle.presenter .detach) : Keeps P (handle.detach H) :=
  h.keeps_onDesk .detach (fun _ => rfl) mine

theorem keeps_drain (mine : works handle.presenter .drain) : Keeps P (handle.drain H) :=
  h.keeps_onDesk .drain (fun _ => rfl) mine

/-- Once its window is entered, `adorn` keeps what its work keeps. -/
theorem after_adorn
    (mine : ∀ operation ∈ WindowOperation.adorn.work, works handle.presenter operation)
    (entered : P (handle.register.after w)) : P ((handle.adorn H).after w) := by
  have recorded : Keeps P (onDesk handle.presenter (Desk.recordViews H)) :=
    h.keeps_onDesk .recordViews (fun _ => rfl) (mine _ List.mem_cons_self)
  have attached : Keeps P (handle.attach H) :=
    h.keeps_attach (mine _ (List.mem_cons_of_mem _ List.mem_cons_self))
  refine Keeps.after_bind entered fun _ w₁ _ hw₁ => ?_
  refine Keeps.bind recorded (fun _ => Keeps.get_bind fun w₂ hw₂ => ?_) w₁ hw₁
  refine Keeps.ite (fun _ => attached) (fun _ => ?_) w₂ hw₂
  exact Keeps.bind (h.keeps_emit _) fun _ => Keeps.pure _

/-- After its window was entered or taken out, an operation keeps what its work keeps. -/
theorem after_perform (operation : WindowOperation)
    (mine : ∀ work ∈ operation.work, works handle.presenter work)
    (hooks : ∀ source, operation = .maintain source →
      ∀ filters, Keeps P (onBackstage (H.onIdle filters source)))
    (rolled : P ((operation.roll handle).after w)) : P ((operation.perform H handle).after w) := by
  cases operation with
  | register => exact rolled
  | unregister => exact rolled
  | adorn => exact Keeps.after_bind (h.after_adorn mine rolled) fun _ _ _ hw => hw
  | unadorn =>
    have detached : Keeps P (handle.detach H) := h.keeps_detach (mine _ List.mem_cons_self)
    have taken : P ((handle.unadorn H).after w) :=
      Keeps.after_bind rolled fun _ w₁ _ hw₁ => detached w₁ hw₁
    exact Keeps.after_bind taken fun _ _ _ hw => hw
  | attach =>
    exact (h.keeps_attach (mine _ List.mem_cons_self)).bind (fun _ => Keeps.pure _) w rolled
  | detach =>
    exact (h.keeps_detach (mine _ List.mem_cons_self)).bind (fun _ => Keeps.pure _) w rolled
  | accept completion =>
    have accepted : Keeps P (handle.accept H completion) :=
      h.keeps_onDesk (.accept completion) (fun _ => rfl) (mine _ List.mem_cons_self)
    exact accepted.bind (fun _ => Keeps.pure _) w rolled
  | drain =>
    exact (h.keeps_drain (mine _ List.mem_cons_self)).bind (fun _ => Keeps.pure _) w rolled
  | requestOutline =>
    have requested : Keeps P (onDesk handle.presenter (Desk.requestOutline H)) :=
      h.keeps_onDesk .requestOutline (fun _ => rfl) (mine _ List.mem_cons_self)
    exact requested.bind (fun _ => Keeps.modify fun _ hw => h.wakes _ hw) w rolled
  | noteView view =>
    have noted : Keeps P
        (onDesk (η := η) handle.presenter (Desk.updatePresenter (·.noteView view))) :=
      h.keeps_onDesk (.noteView view) (fun _ => rfl) (mine _ List.mem_cons_self)
    refine Keeps.bind (Keeps.bind noted fun _ => ?_) (fun _ => Keeps.pure _) w rolled
    exact Keeps.get_bind fun _ hw => hw
  | maintain source =>
    exact (keeps_maintain (hooks source rfl) handle).bind (fun _ => Keeps.pure _) w rolled

end

/-! ### Sessions -/

theorem keeps_tick {source : IdleSourceId} (asks : calls (.mayContinue source))
    (hooks : ∀ filters, Keeps P (onBackstage (H.onIdle filters source))) (round : IdleRound) :
    Keeps P (round.run H source) := by
  have guarded (handle : Handle) : Keeps P (handle.maintainGuarded H source) := by
    refine Keeps.bind (Keeps.attempt (keeps_maintain hooks handle)) fun result => ?_
    rcases result with panic | failure | _
    · exact Keeps.bind (h.keeps_emit _) fun _ => Keeps.pure _
    · exact Keeps.bind (h.keeps_emit _) fun _ => Keeps.pure _
    · exact Keeps.pure _
  refine Keeps.bind ?_ fun _ => Keeps.bind (h.keeps_emit _) fun _ => Keeps.pure _
  refine Keeps.get_bind fun w hw => keeps_visitEach (fun report handle _ => ?_) _ w hw
  refine Keeps.bind (h.keeps_call (.mayContinue source) asks) fun allowed => ?_
  refine Keeps.ite (fun _ => Keeps.pure _) fun _ => ?_
  exact Keeps.bind (guarded handle) fun _ => Keeps.pure _

theorem keeps_leave {handle : Handle} (mine : works handle.presenter .detach) :
    Keeps P (handle.leave H) :=
  Handle.keeps_attempt (h.keeps_detach mine) h.note

/-- Once the roster is empty, closing the windows keeps what detaching them keeps. -/
theorem after_closeWindows {s : Session} (mine : ∀ k ∈ w.listed s, works k.presenter .detach)
    (emptied : P (w.emptied s.scope)) : P ((s.closeWindows H).after w) := by
  have left : Keeps P ((w.listed s).mapM (Handle.leave H)) :=
    Keeps.mapM fun k mem => h.keeps_leave (mine k mem)
  unfold after
  rw [Session.closeWindows_eq]
  exact Keeps.bind left (fun _ => Keeps.pure _) _ emptied

theorem after_setEnabled {s : Session} {enabled : Bool}
    (mine : ∀ k ∈ w.listed s, works k.presenter .attach ∧ works k.presenter .detach)
    (switched : P (w.switched s.scope enabled)) : P ((s.setEnabled H enabled).after w) := by
  have toggled : Keeps P ((w.listed s).mapM (Handle.toggle H enabled)) :=
    Keeps.mapM fun k mem => Handle.keeps_attempt (Keeps.ite
      (fun _ => h.keeps_attach (mine k mem).1) fun _ => h.keeps_detach (mine k mem).2) h.note
  unfold after
  rw [Session.setEnabled_eq]
  refine Keeps.bind toggled (fun attempts => ?_) _ switched
  exact Keeps.bind (h.keeps_emit _) fun _ => Keeps.pure _

theorem after_dispatch {s : Session} (mine : ∀ k ∈ w.listed s, works k.presenter .drain)
    (hw : P w) : P ((s.dispatch H).after w) := by
  have drained : Keeps P ((w.listed s).mapM (Handle.drain H)) :=
    Keeps.mapM fun k mem => h.keeps_drain (mine k mem)
  unfold after
  rw [Session.dispatch_eq]
  exact Keeps.bind drained (fun _ => Keeps.pure _) w hw

theorem keeps_uninstall {c : IdleCoordinator} (gives : c.GivesUpBy calls) :
    Keeps P (c.uninstall H) := by
  unfold IdleCoordinator.uninstall
  cases held : c.subscription with
  | none => exact Keeps.pure _
  | some subscription =>
    refine Keeps.bind (h.keeps_call (.unsubscribeIdle c.idleHost subscription) ?_) fun _ => ?_
    · exact gives subscription held
    · exact Keeps.bind (h.keeps_emit _) fun _ => Keeps.pure _

section
variable {s : Session} (gives : s.idle.GivesUpBy calls)
include gives

theorem keeps_abandon : Keeps P (s.abandon H) :=
  Keeps.bind (h.keeps_uninstall gives) fun _ => Keeps.pure _

theorem keeps_finish (windows : Nat) : Keeps P (s.finish H windows) :=
  Keeps.bind (h.keeps_uninstall gives) fun _ => Keeps.bind (h.keeps_emit _) fun _ => Keeps.pure _

/-- What holds when the windows are closed holds at the end of a session that is dropped. -/
theorem after_drop (closed : P ((s.closeWindows H).after w)) : P ((s.drop H).after w) := by
  refine Keeps.after_bind (Keeps.after_onPanic closed (h.keeps_abandon gives)) ?_
  intro windows w₁ _ hw₁
  refine Keeps.after_bind (h.keeps_finish gives windows w₁ hw₁) fun idle w₂ finished hw₂ => ?_
  have spent : idle.subscription = none := Session.subscription_of_finish finished
  exact h.keeps_abandon (s := { s with idle }) (.of_spent spent) w₂ hw₂

/-- A session that is shut down may close its windows twice. -/
theorem after_shutdown (closed : P ((s.closeWindows H).after w))
    (again : Keeps P (s.closeWindows H)) : P ((s.shutdown H).after w) := by
  have gone : Keeps P (s.letGo H) :=
    Keeps.ite (fun _ w hw => h.after_drop gives (again w hw)) fun _ => h.keeps_abandon gives
  refine Keeps.after_bind (Keeps.after_onPanic closed gone) fun windows w₁ _ hw₁ => ?_
  refine Keeps.after_bind (h.keeps_finish gives windows w₁ hw₁) fun idle w₂ finished hw₂ => ?_
  have spent : idle.subscription = none := Session.subscription_of_finish finished
  have ended : Keeps P (Session.letGo H { s with idle }) := by
    unfold Session.letGo IdleCoordinator.isInstalled
    rw [spent]
    exact h.keeps_abandon (s := { s with idle }) (.of_spent spent)
  exact Keeps.bind ended (fun _ => Keeps.pure _) w₂ hw₂

end

/-- What a session keeps that may do its work on the desks of all registered windows. -/
theorem keeps_session {s : Session} (operation : SessionOperation)
    (mine : ∀ w, P w → ∀ k ∈ w.listed s, ∀ work ∈ operation.work, works k.presenter work)
    (emptied : ∀ w, P w → P (w.emptied s.scope))
    (switched : ∀ w enabled, P w → P (w.switched s.scope enabled))
    (ticks : ∀ source, operation = .tick source → Keeps P (s.onIdle H source))
    (gives : operation.isEnding = true → s.idle.GivesUpBy calls) :
    Keeps P (operation.perform H s) := by
  cases operation with
  | setEnabled enabled =>
    have toggled : Keeps P (s.setEnabled H enabled) := fun w hw => h.after_setEnabled
      (fun k mem => ⟨mine w hw k mem _ List.mem_cons_self,
        mine w hw k mem _ (List.mem_cons_of_mem _ List.mem_cons_self)⟩) (switched w enabled hw)
    exact Keeps.bind toggled fun _ => Keeps.pure _
  | dispatch =>
    have dispatched : Keeps P (s.dispatch H) := fun w hw =>
      h.after_dispatch (fun k mem => mine w hw k mem _ List.mem_cons_self) hw
    exact Keeps.bind dispatched fun _ => Keeps.pure _
  | tick source => exact Keeps.bind (ticks source rfl) fun _ => Keeps.pure _
  | shutdown =>
    have closed : Keeps P (s.closeWindows H) := fun w hw =>
      h.after_closeWindows (fun k mem => mine w hw k mem _ List.mem_cons_self) (emptied w hw)
    have shut : Keeps P (s.shutdown H) := fun w hw =>
      h.after_shutdown (gives rfl) (closed w hw) closed
    exact Keeps.bind shut fun _ => Keeps.pure _
  | drop =>
    exact fun w hw => h.after_drop (gives rfl) <|
      h.after_closeWindows (fun k mem => mine w hw k mem _ List.mem_cons_self) (emptied w hw)

/-! ### New windows -/

section
variable {parts : WindowParts} (asks : ∀ {call : HostCall}, call.isOpening = true → calls call)
include asks

/-- A new outliner is a service with the resolver's grammar, and its loop is due. -/
theorem keeps_resolveOutliner {source : OutlinerSource}
    (created : ∀ resolver grammar, source = .rule resolver → resolver.grammar = some grammar →
      ∀ w, P w → P { w with outliners := (w.outliners.add (.background (.start grammar))).2 })
    (buffer : BufferId) : Keeps P (resolveOutliner H source buffer) := by
  cases source with
  | host resolver => exact h.keeps_call (.resolve resolver buffer) (asks rfl)
  | rule resolver =>
    refine Keeps.get_bind fun w hw => ?_
    dsimp only
    split
    · exact hw
    · exact hw
    · rename_i grammar resolved
      have brought := Resolver.grammar_of_create resolved
      refine (Keeps.bind ?_ fun _ => Keeps.pure _) w hw
      refine Keeps.bind (h.keeps_emit _) fun _ => Keeps.bind (h.keeps_emit _) fun _ w hw => ?_
      exact h.wakes _ (created resolver grammar rfl brought w hw)

theorem keeps_attachFilters (filters : FiltersId) (view : ViewId) :
    Keeps P (attachFilters H filters view) := by
  refine Keeps.bind (h.keeps_call (.filterKeyboard filters view) (asks rfl)) fun status => ?_
  cases status with
  | error failure => exact Keeps.pure _
  | ok _ => exact h.keeps_call (.filterView filters view) (asks rfl)

theorem keeps_subscribe {outliner : OutlinerId} (listens : ∀ w, P w → P { w with
      outliners := w.outliners.set outliner (w.outliners.get outliner).subscribe.2 }) :
    Keeps P (subscribe H outliner) := by
  refine Keeps.get_bind fun w hw => ?_
  cases w.outliners.get outliner with
  | hosted _ =>
    refine Keeps.bind (h.keeps_call (.subscribe outliner) (asks rfl)) (fun _ => ?_) w hw
    exact Keeps.get_bind fun w hw => listens w hw
  | background _ => exact listens w hw

theorem keeps_openWindow
    (created : ∀ resolver grammar, parts.source = .rule resolver →
      resolver.grammar = some grammar → ∀ w, P w →
      P { w with outliners := (w.outliners.add (.background (.start grammar))).2 })
    (listens : ∀ outliner w, P w → P { w with
      outliners := w.outliners.set outliner (w.outliners.get outliner).subscribe.2 })
    (opened : ∀ p w, p.IsNew parts → P w → P { w with presenters := (w.presenters.add p).2 })
    (scope : ScopeId) : Keeps P (openWindow H parts scope) := by
  refine Keeps.bind (h.keeps_resolveOutliner asks created _) fun resolved => ?_
  cases resolved with
  | error cause =>
    refine Keeps.get_bind fun w hw => ?_
    exact (Keeps.bind (h.keeps_emit _) fun _ => Keeps.pure _) w hw
  | ok outliner =>
    refine Keeps.bind (h.keeps_attachFilters asks _ _) fun status => ?_
    cases status with
    | error failure => exact Keeps.pure _
    | ok _ =>
      refine Keeps.bind (h.keeps_subscribe asks (listens outliner)) fun listener => ?_
      refine Keeps.bind (h.keeps_emit _) fun _ => Keeps.bind (fun w hw => ?_) fun _ => Keeps.pure _
      exact opened _ w ⟨rfl, rfl, rfl, rfl, rfl, rfl⟩ hw

end

end Stable

end Workspace

end OutlineBar
