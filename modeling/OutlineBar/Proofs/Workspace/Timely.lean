/-
Windows of one buffer never go back in time.

Any number of windows show one buffer and listen to one service.  Edits, requests, moves of
the loop, attaching, detaching and draining happen in any order.  `handed_in_order` states
that what a window hands to its clients never gets older, across all its clients, and is
never newer than the buffer.
-/
import OutlineBar.Proofs.Host.Plain
import OutlineBar.Proofs.Presenter.Attachment
import OutlineBar.Proofs.Presenter.Timely
import OutlineBar.Proofs.Workspace.Operation

namespace OutlineBar

open OutlineBar.Action

variable {η : Type} {H : Host η} {buffer : BufferId} {t : Timeline H buffer} {outliner : OutlinerId}

/-- Whether a presenter shows a buffer and listens to an outliner. -/
def Presenter.IsBound (outliner : OutlinerId) (buffer : BufferId) (p : Presenter) : Prop :=
  p.outliner = outliner ∧ p.buffer = buffer

instance {p : Presenter} : Decidable (p.IsBound outliner buffer) :=
  inferInstanceAs (Decidable (_ ∧ _))

theorem Presenter.isBound_of_fixed {p p' : Presenter} (same : p'.fixed = p.fixed) :
    p'.IsBound outliner buffer ↔ p.IsBound outliner buffer := by
  show p'.fixed.outliner = outliner ∧ p'.fixed.buffer = buffer ↔ _
  rw [same]
  rfl

/-- Whether a service and all windows that listen to it are in order. -/
structure Workspace.Timely (t : Timeline H buffer) (outliner : OutlinerId)
    (w start : Workspace (Recorded η)) : Prop where
  service : ∃ s, w.outliners.get outliner = .background s ∧ s.Timely t (t.text w.host.host)
  same : ∀ id, (w.presenters.get id).fixed = (start.presenters.get id).fixed
  windows : ∀ id, (w.presenters.get id).IsBound outliner buffer →
    (w.presenters.get id).Timely t id w.host

namespace Workspace.Timely

variable {start w : Workspace (Recorded η)}

/-- What a window does on its desk. -/
theorem putDesk (h : w.Timely t outliner start) {id : PresenterId}
    (bound : (w.presenters.get id).IsBound outliner buffer) {d : Desk (Recorded η)}
    (stays : Desk.Stays id (some id) (w.desk id) d)
    (timely : d.Timely t id (t.text w.host.host)) :
    (w.putDesk id d).Timely t outliner start := by
  have own : (w.putDesk id d).presenters.get id = d.presenter := Store.get_set_self _ _ _
  have others : ∀ other, other ≠ id →
      (w.putDesk id d).presenters.get other = w.presenters.get other :=
    fun _ ne => Store.get_set_of_ne _ _ ne
  refine ⟨?_, ?_, ?_⟩
  · obtain ⟨s, background, service⟩ := timely.service
    refine ⟨s, ?_, service⟩
    rw [← bound.1, ← background]
    exact Store.get_set_self _ _ _
  · intro other
    exact (w.presenters.map_get_set Presenter.fixed stays.fixed other).trans (h.same other)
  · intro other bound'
    by_cases e : other = id
    · subst e
      rw [own]
      exact timely.window
    · rw [others other e] at bound' ⊢
      obtain ⟨more, log, callers⟩ := stays.grows.grown
      refine (h.windows other bound').extend log (fun r mem caller => ?_) timely.since
      exact absurd (Option.some.inj ((callers r mem).symm.trans caller)) (Ne.symm e)

theorem desk (h : w.Timely t outliner start) {id : PresenterId}
    (bound : (w.presenters.get id).IsBound outliner buffer) :
    (w.desk id).Timely t id (t.text w.host.host) := by
  obtain ⟨s, background, service⟩ := h.service
  refine ⟨⟨s, ?_, service⟩, bound.2, h.windows id bound, t.refl _⟩
  rw [← bound.1] at background
  exact background

theorem onDesk (h : w.Timely t outliner start) {id : PresenterId}
    (bound : (w.presenters.get id).IsBound outliner buffer) {α : Type}
    {act : Action (Desk (Recorded η)) α} (stays : ∀ d, Desk.Stays id (some id) d (act.after d))
    (timely : Keeps (Desk.Timely t id (t.text w.host.host)) act) :
    ((Workspace.onDesk id act).after w).Timely t outliner start := by
  unfold Workspace.onDesk
  rw [after_zoom]
  exact h.putDesk bound (stays (w.desk id)) (timely (w.desk id) (h.desk bound))

/-- What happens to the service. -/
theorem changeService (h : w.Timely t outliner start) {operation : OutlinerOperation}
    (timely : ∀ s, s.Timely t (t.text w.host.host) →
      (operation.onService s).1.Timely t (t.text w.host.host)) :
    ((operation.perform outliner).after w).Timely t outliner start := by
  obtain ⟨s, background, service⟩ := h.service
  refine ⟨⟨(operation.onService s).1, ?_, timely s service⟩, h.same, h.windows⟩
  show (w.outliners.set outliner (operation.onOutliner (w.outliners.get outliner)).1).get
    outliner = _
  rw [Store.get_set_self, background]
  rfl

theorem changeHost (h : w.Timely t outliner start) {change : η → η}
    (follows : t.Follows (t.text w.host.host) (t.text (change w.host.host))) :
    (((Operation.host change).perform H).after w).Timely t outliner start := by
  obtain ⟨s, background, service⟩ := h.service
  refine ⟨⟨s, background, service.mono follows⟩, h.same, fun id bound => ?_⟩
  exact (h.windows id bound).extend (List.append_nil _).symm (fun _ mem => nomatch mem) follows

theorem wake (h : w.Timely t outliner start) (id : OutlinerId) :
    (w.wake id).Timely t outliner start := by
  unfold Workspace.wake
  split <;> exact ⟨h.service, h.same, h.windows⟩

/-- The operations that have to do with outlines keep all windows in order. -/
theorem window (h : w.Timely t outliner start) {handle : Handle}
    (bound : (w.presenterOf handle).IsBound outliner buffer) {operation : WindowOperation}
    (concerns : operation.concernsOutlines = true) :
    ((operation.perform (H.recorded (some handle.presenter)) handle).after w).Timely t outliner
      start := by
  have upheld := Desk.upheld_timely t handle.presenter (t.text w.host.host)
  have mine : handle.presenter.Allows (some handle.presenter) := .inl rfl
  let P (v : Workspace (Recorded η)) : Prop := v.Timely t outliner start
  have answered {α : Type} {act : Action (Workspace (Recorded η)) α} (kept : P (act.after w)) :
      P ((do let _ ← act : Action (Workspace (Recorded η)) Unit).after w) :=
    Keeps.after_bind kept fun _ _ _ h => h
  cases operation with
  | attach => exact answered (h.onDesk bound (.attach H mine) upheld.keeps_attach)
  | detach => exact answered (h.onDesk bound (.detach H mine) upheld.detach)
  | drain => exact answered (h.onDesk bound (.drain H mine) upheld.keeps_drain)
  | requestOutline =>
    have asked : P _ := h.onDesk bound (.requestOutline H) fun d h => h.requestOutline
    exact Keeps.after_bind asked fun _ _ _ h => h.wake _
  | _ => cases concerns

end Workspace.Timely

/-! ## Runs -/

/-- The order of versions, with outlines of any grammar. -/
def Timeline.ofVersions (text : η → Snapshot)
    (reads : ∀ {s snapshot s'}, H.snapshot buffer s = .ok snapshot s' → snapshot = text s)
    (grows : ∀ call s, (text s).version ≤ (text ((H.answer call).after s)).version) :
    Timeline H buffer where
  text
  Follows a b := a.version ≤ b.version
  Outlines a outline := outline.version = a.version
  refl _ := Nat.le_refl _
  trans := Nat.le_trans
  version_le h := h
  version_eq h := h
  reads
  advances := grows

/-- Whether an operation concerns outlines of the buffer: what the windows and the service
do with them, and edits that do not take a version back. -/
def Operation.ConcernsOutlines (text : η → Snapshot) (outliner : OutlinerId) (buffer : BufferId)
    (w : Workspace (Recorded η)) : Operation η → Prop
  | .window h operation =>
    (w.presenterOf h).IsBound outliner buffer ∧ operation.concernsOutlines = true
  | .outliner id operation => id = outliner ∧ operation.isOwn = true
  | .host change => (text w.host.host).version ≤ (text (change w.host.host)).version
  | _ => False

instance {text : η → Snapshot} {w : Workspace (Recorded η)} {operation : Operation η} :
    Decidable (operation.ConcernsOutlines text outliner buffer w) :=
  match operation with
  | .window _ _ | .outliner _ _ => inferInstanceAs (Decidable (_ ∧ _))
  | .host _ => inferInstanceAs (Decidable (_ ≤ _))
  | .openWindow _ _ | .session _ _ => inferInstanceAs (Decidable False)

/-- Whatever the host answers and the grammar does: the versions of the outlines that a
window hands to its clients never decrease, also from one client to the next, and none is
above the version of the buffer when it is handed over. -/
theorem handed_in_order (H : Host η) {text : η → Snapshot} {buffer : BufferId}
    {outliner : OutlinerId} {grammar : Grammar} {broadcast : Broadcast}
    {start w : Workspace (Recorded η)}
    (reads : ∀ {s snapshot s'}, H.snapshot buffer s = .ok snapshot s' → snapshot = text s)
    (grows : ∀ call s, (text s).version ≤ (text ((H.answer call).after s)).version)
    (service : start.outliners.get outliner = .background { grammar, broadcast })
    (unqueued : ∀ listener, broadcast.queue listener = [])
    (detached : ∀ id, (start.presenters.get id).IsBound outliner buffer →
      (start.presenters.get id).client = none)
    (silent : start.host.log = [])
    (reached : Reaches H (fun w operation => operation.ConcernsOutlines text outliner buffer w)
      start w)
    {id : PresenterId} (bound : (start.presenters.get id).IsBound outliner buffer) :
    ((handedBy id w.host.log).map Outline.version).Pairwise (· ≤ ·) ∧
    ∀ r ∈ w.host.log, r.caller = some id → ∀ outline, r.call.handed? = some outline →
      outline.version ≤ (text r.before).version := by
  let t := Timeline.ofVersions text reads grows
  have base : start.Timely t outliner start :=
    ⟨⟨_, service, .fresh (fun _ _ outlined => Grammar.outline_version outlined) unqueued⟩,
      fun _ => rfl, fun id bound => .fresh (detached id bound) silent⟩
  have timely : w.Timely t outliner start := by
    refine reached.invariant (P := fun w => w.Timely t outliner start) base ?_
    intro w operation timely concerns
    cases operation with
    | window h operation => exact timely.window concerns.1 concerns.2
    | outliner id operation =>
      obtain ⟨rfl, own⟩ := concerns
      refine timely.changeService fun s service => ?_
      cases operation with
      | loop m => exact service.loop m
      | shutdown => exact service.shutdown
      | turnGrammar grammar =>
        exact ⟨fun _ _ outlined => Grammar.outline_version outlined, service.latest,
          service.parsing, service.published, service.queued⟩
      | _ => cases own
    | host change => exact timely.changeHost concerns
    | _ => cases concerns
  have window := timely.windows id ((Presenter.isBound_of_fixed (timely.same id)).mpr bound)
  exact ⟨window.sorted, window.punctual⟩

/-- A completion is queued before a window gets its second client and reaches it after. -/
theorem handed_in_order_across_clients :
    let H := Host.plain (pure ())
    let grammar : Grammar := fun _ => .ok (.empty 0 0)
    let p : Presenter := ⟨⟨1⟩, ⟨0⟩, ⟨0⟩, ⟨0⟩, ⟨0⟩, ⟨0⟩, ⟨0⟩, ⟨0⟩, none, none, [], 0⟩
    let start : Workspace (Recorded Snapshot) := {
      host := ⟨⟨1, "a"⟩, []⟩
      outliners := ⟨1, fun _ => .background { grammar, broadcast := ⟨[{ id := ⟨0⟩ }], 1⟩ }⟩
      presenters := ⟨1, fun _ => p⟩ }
    ∃ w, Reaches H (fun w operation => operation.ConcernsOutlines id ⟨0⟩ ⟨0⟩ w) start w ∧
      (handedBy ⟨0⟩ w.host.log).map Outline.version = [1, 2, 2] ∧
      ((handedBy ⟨0⟩ w.host.log).map Outline.version).Pairwise (· ≤ ·) := by
  intro H grammar p start
  let h : Handle := ⟨⟨1⟩, ⟨0⟩, ⟨0⟩⟩
  have reached :
      Reaches H (fun w operation => operation.ConcernsOutlines id ⟨0⟩ ⟨0⟩ w) start start := .start
  have reached := reached.step (.window h .attach) (by decide +kernel)
  have reached := reached.step (.host fun _ => ⟨2, "b"⟩) (by decide +kernel)
  have reached := reached.step (.window h .requestOutline) (by decide +kernel)
  have reached := reached.step (.outliner ⟨0⟩ (.loop .wake)) (by decide +kernel)
  have reached := reached.step (.outliner ⟨0⟩ (.loop .pick)) (by decide +kernel)
  have reached := reached.step (.outliner ⟨0⟩ (.loop .finish)) (by decide +kernel)
  have reached := reached.step (.window h .detach) (by decide +kernel)
  have reached := reached.step (.window h .attach) (by decide +kernel)
  have reached := reached.step (.window h .drain) (by decide +kernel)
  have unqueued : ∀ listener, Broadcast.queue listener ⟨[{ id := ⟨0⟩ }], 1⟩ = [] := by
    intro listener
    by_cases e : (⟨0⟩ : ListenerId) = listener <;> simp [Broadcast.queue, e]
  have grows : ∀ call s, Snapshot.version (id s) ≤ (id ((H.answer call).after s)).version := by
    intro call s
    cases call <;> exact Nat.le_refl _
  refine ⟨_, reached, by decide +kernel, ?_⟩
  exact (handed_in_order H (by rintro s _ _ ⟨⟩; rfl) grows rfl unqueued (fun _ _ => rfl) rfl reached
    ⟨rfl, rfl⟩).1

end OutlineBar
