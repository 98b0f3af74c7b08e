/-
A window converges to its buffer.

One window shows a buffer and listens to a service with a fixed grammar.  Edits, requests,
moves of the loop, attaching, detaching and draining happen in any order.  Suppose that
the window asked for an outline, that the buffer has not changed since, and that the loop
rests.  `drain_converges` states that a drain leaves the attached client with the outline of
the buffer's text, and that there is nothing left to drain.
-/
import OutlineBar.Proofs.Presenter.Convergence
import OutlineBar.Proofs.Workspace.Timely

namespace OutlineBar

open OutlineBar.Action

variable {η : Type} {H : Host η} {buffer : BufferId} {t : Timeline H buffer} {id : PresenterId}
  {outliner : OutlinerId} {grammar : Grammar} {target : Snapshot} {awaited : Option Outline}

namespace Workspace

variable {w w' : Workspace (Recorded η)}

/-! ## Desks in the workspace -/

theorem putDesk_desk (id : PresenterId) (w : Workspace η) : w.putDesk id (w.desk id) = w := by
  simp only [putDesk, desk, outlinerOf, Store.modify, Store.set_get]
  show { w with buffers := w.buffers.set _ (w.buffers.get (w.presenters.get id).buffer) } = w
  rw [Store.set_get]

theorem desk_putDesk {d : Desk (Recorded η)}
    (same : d.presenter.fixed = (w.presenters.get id).fixed) : (w.putDesk id d).desk id = d := by
  have outliner : d.presenter.outliner = (w.presenters.get id).outliner :=
    show d.presenter.fixed.outliner = (w.presenters.get id).fixed.outliner by rw [same]
  have buffer : d.presenter.buffer = (w.presenters.get id).buffer := buffer_of_fixed same
  unfold desk outlinerOf putDesk
  simp only [Store.get_set_self, outliner, buffer, Store.modify]

theorem desk_wake (other : OutlinerId) (w : Workspace η) : (w.wake other).desk id = w.desk id := by
  unfold wake
  split <;> rfl

theorem desk_perform (bound : (w.presenters.get id).outliner = outliner)
    (operation : OutlinerOperation) :
    ((operation.perform outliner).after w).desk id =
      { w.desk id with
        outliner := (operation.onOutliner (w.desk id).outliner).1
        trace := w.trace ++ (operation.onOutliner (w.desk id).outliner).2 } := by
  subst bound
  have changed : ((operation.perform (w.presenters.get id).outliner).after w).outliners.get
      (w.presenters.get id).outliner = (operation.onOutliner (w.desk id).outliner).1 :=
    Store.get_set_self _ _ _
  exact congrArg (fun outliner : Outliner => { w.desk id with
    outliner
    trace := w.trace ++ (operation.onOutliner (w.desk id).outliner).2 }) changed

/-- Whether a window is on the way to the outline that it awaits, if it awaits one. -/
structure Converging (t : Timeline H buffer) (id : PresenterId) (outliner : OutlinerId)
    (grammar : Grammar) (target : Snapshot) (awaited : Option Outline)
    (w : Workspace (Recorded η)) : Prop where
  bound : (w.presenters.get id).IsBound outliner buffer
  desk : (w.desk id).Converging t id grammar target awaited

namespace Converging

theorem onDesk (h : w.Converging t id outliner grammar target awaited) {α : Type}
    {act : Action (Desk (Recorded η)) α} (stays : ∀ d, Desk.Stays id (some id) d (act.after d))
    (kept : Keeps (Desk.Converging t id grammar target awaited) act) :
    ((Workspace.onDesk id act).after w).Converging t id outliner grammar target awaited := by
  unfold Workspace.onDesk
  rw [after_zoom]
  have same := (stays (w.desk id)).fixed
  refine ⟨?_, ?_⟩
  · have own := Store.get_set_self w.presenters id (act.after (w.desk id)).presenter
    show ((w.presenters.set id (act.after (w.desk id)).presenter).get id).IsBound outliner buffer
    rw [own]
    exact (Presenter.isBound_of_fixed same).mpr h.bound
  · rw [desk_putDesk same]
    exact kept _ h.desk

theorem wake (h : w.Converging t id outliner grammar target awaited) (other : OutlinerId) :
    (w.wake other).Converging t id outliner grammar target awaited := by
  refine ⟨?_, by rw [desk_wake]; exact h.desk⟩
  unfold Workspace.wake
  split <;> exact h.bound

variable (strict : t.Strict grammar)
  (parsed : ∀ outline, awaited = some outline → grammar.outline target = .ok outline)
include strict

include parsed in
theorem window (h : w.Converging t id outliner grammar target awaited) {handle : Handle}
    (mine : handle.presenter = id) {operation : WindowOperation}
    (concerns : operation.concernsOutlines = true) :
    ((operation.perform (H.recorded (some handle.presenter)) handle).after w).Converging t id
      outliner grammar target awaited := by
  subst mine
  have upheld : Desk.Upheld (H.recorded (some handle.presenter))
      (Desk.Converging t handle.presenter grammar target awaited) :=
    Desk.upheld_converging strict parsed
  have mine : handle.presenter.Allows (some handle.presenter) := .inl rfl
  let P (v : Workspace (Recorded η)) : Prop :=
    v.Converging t handle.presenter outliner grammar target awaited
  have answered {α : Type} {act : Action (Workspace (Recorded η)) α} (kept : P (act.after w)) :
      P ((do let _ ← act : Action (Workspace (Recorded η)) Unit).after w) :=
    Keeps.after_bind kept fun _ _ _ h => h
  cases operation with
  | attach => exact answered (h.onDesk (.attach H mine) upheld.keeps_attach)
  | detach => exact answered (h.onDesk (.detach H mine) upheld.detach)
  | drain => exact answered (h.onDesk (.drain H mine) upheld.keeps_drain)
  | requestOutline =>
    have asked : P _ := h.onDesk (.requestOutline H) fun d h => h.requestOutline strict
    exact Keeps.after_bind asked fun _ _ _ h => h.wake _
  | _ => cases concerns

theorem changeHost (h : w.Converging t id outliner grammar target awaited) {change : η → η}
    (follows : t.Follows (t.text w.host.host) (t.text (change w.host.host))) :
    (((Operation.host change).perform H).after w).Converging t id outliner grammar target
      awaited :=
  ⟨h.bound, h.desk.change strict (h.desk.timely.later follows) follows rfl
    fun _ _ attached => .inr ⟨attached, rfl⟩⟩

omit strict

include parsed in
theorem loop (h : w.Converging t id outliner grammar target awaited) (m : LoopMove) :
    (((OutlinerOperation.loop m).perform outliner).after w).Converging t id outliner grammar target
      awaited := by
  obtain ⟨s, background, -⟩ := h.desk.service
  refine ⟨h.bound, ?_⟩
  rw [desk_perform h.bound.1, background]
  dsimp only [OutlinerOperation.onOutliner, OutlinerOperation.onService]
  cases possible : s.move? m with
  | none =>
    have same := h.desk.noted (w.desk id).bag (w.trace ++ [])
    rw [background] at same
    exact same
  | some result => exact h.desk.moved parsed background (Service.moves_of_move? possible) _

theorem shutdown (h : w.Converging t id outliner grammar target awaited) :
    ((OutlinerOperation.shutdown.perform outliner).after w).Converging t id outliner grammar target
      awaited := by
  obtain ⟨s, background, -⟩ := h.desk.service
  refine ⟨h.bound, ?_⟩
  rw [desk_perform h.bound.1, background]
  exact h.desk.shutdown background _

end Converging

end Workspace

/-! ## Runs -/

/-- The order of edits, each of which gives a higher version, with the outlines of one
grammar. -/
def Timeline.ofEdits (text : η → Snapshot) (grammar : Grammar)
    (reads : ∀ {s snapshot s'}, H.snapshot buffer s = .ok snapshot s' → snapshot = text s)
    (advances : ∀ call s, text s = text ((H.answer call).after s) ∨
      (text s).version < (text ((H.answer call).after s)).version) : Timeline H buffer where
  text
  Follows a b := a = b ∨ a.version < b.version
  Outlines a outline := grammar.outline a = .ok outline
  refl _ := .inl rfl
  trans := by
    rintro a b c (rfl | less) (rfl | less')
    · exact .inl rfl
    · exact .inr less'
    · exact .inr less
    · exact .inr (Nat.lt_trans less less')
  version_le := by
    rintro a b (rfl | less)
    · exact Nat.le_refl _
    · exact Nat.le_of_lt less
  version_eq := Grammar.outline_version
  reads
  advances

theorem Timeline.Strict.ofEdits {text : η → Snapshot} {grammar : Grammar}
    (reads : ∀ {s snapshot s'}, H.snapshot buffer s = .ok snapshot s' → snapshot = text s)
    (advances : ∀ call s, text s = text ((H.answer call).after s) ∨
      (text s).version < (text ((H.answer call).after s)).version) :
    (Timeline.ofEdits text grammar reads advances).Strict grammar where
  eq_of_version_le := by
    rintro a b (same | less) le
    · exact same
    · exact absurd le (Nat.not_le_of_lt less)
  outlines outlined := outlined

/-- Whether an operation is something that one window and its service do with outlines of
the buffer, or an edit that gives a higher version. -/
def Operation.ConcernsWindow (text : η → Snapshot) (outliner : OutlinerId) (id : PresenterId)
    (w : Workspace (Recorded η)) : Operation η → Prop
  | .window h operation => h.presenter = id ∧ operation.concernsOutlines = true
  | .outliner other (.loop _) => other = outliner
  | .outliner other .shutdown => other = outliner
  | .host change => text w.host.host = text (change w.host.host) ∨
    (text w.host.host).version < (text (change w.host.host)).version
  | _ => False

instance {text : η → Snapshot} {w : Workspace (Recorded η)} {operation : Operation η} :
    Decidable (operation.ConcernsWindow text outliner id w) :=
  match operation with
  | .window _ _ => inferInstanceAs (Decidable (_ ∧ _))
  | .outliner _ (.loop _) | .outliner _ .shutdown => inferInstanceAs (Decidable (_ = _))
  | .outliner _ (.request _) | .outliner _ (.announce _) | .outliner _ (.turnGrammar _) =>
    inferInstanceAs (Decidable False)
  | .host _ => inferInstanceAs (Decidable (_ ∨ _))
  | .openWindow _ _ | .session _ _ => inferInstanceAs (Decidable False)

section
variable {text : η → Snapshot}
  {reads : ∀ {s snapshot s'}, H.snapshot buffer s = .ok snapshot s' → snapshot = text s}
  {advances : ∀ call s, text s = text ((H.answer call).after s) ∨
    (text s).version < (text ((H.answer call).after s)).version}

theorem Workspace.Converging.perform {w : Workspace (Recorded η)}
    (h : w.Converging (.ofEdits text grammar reads advances) id outliner grammar target awaited)
    (parsed : ∀ outline, awaited = some outline → grammar.outline target = .ok outline)
    {operation : Operation η} (concerns : operation.ConcernsWindow text outliner id w) :
    ((operation.perform H).after w).Converging (.ofEdits text grammar reads advances) id outliner
      grammar target awaited := by
  have strict : (Timeline.ofEdits text grammar reads advances).Strict grammar :=
    .ofEdits reads advances
  cases operation with
  | window handle operation => exact h.window strict parsed concerns.1 concerns.2
  | outliner other operation =>
    cases operation with
    | loop m =>
      obtain rfl : other = outliner := concerns
      exact h.loop parsed m
    | shutdown =>
      obtain rfl : other = outliner := concerns
      exact h.shutdown
    | _ => cases concerns
  | host change => exact h.changeHost strict concerns
  | _ => cases concerns

variable (reads advances) in
theorem Workspace.converging_start {broadcast : Broadcast} {start : Workspace (Recorded η)}
    (bound : (start.presenters.get id).IsBound outliner buffer)
    (service : start.outliners.get outliner = .background { grammar, broadcast })
    (hears : broadcast.Hears (start.presenters.get id).listener)
    (unqueued : ∀ listener, broadcast.queue listener = [])
    (detached : (start.presenters.get id).client = none) (silent : start.host.log = []) :
    start.Converging (.ofEdits text grammar reads advances) id outliner grammar
      (text start.host.host) none := by
  have background : (start.desk id).outliner = .background { grammar, broadcast } := by
    rw [← service, ← bound.1]
    rfl
  refine ⟨bound, ⟨⟨_, background, .fresh (fun _ _ outlined => outlined) unqueued⟩, bound.2,
    .fresh detached silent, .inl rfl⟩, _, background, ⟨rfl, hears, Nat.le_refl _⟩, ?_⟩
  exact fun _ none => nomatch none

/-- A request that returns, for the text that the buffer has. -/
theorem Workspace.Converging.requested {w w' : Workspace (Recorded η)} {h : Handle}
    (start : w.Converging t h.presenter outliner grammar target none)
    (asks : h.requestOutline (H.recorded (some h.presenter)) w = .ok () w')
    (awaited : Option Outline) :
    w'.Converging t h.presenter outliner grammar (t.text w.host.host) awaited := by
  obtain ⟨_, w₁, asks, wakes⟩ := bind_eq_ok asks
  obtain ⟨d, returns, rfl⟩ := zoom_eq_ok asks
  cases wakes
  have stays : Desk.Stays h.presenter (some h.presenter) (w.desk h.presenter) d :=
    after_of_ok returns ▸ Desk.Stays.requestOutline H (w.desk h.presenter)
  refine Workspace.Converging.wake ⟨?_, ?_⟩ _
  · have own : (w.putDesk h.presenter d).presenters.get h.presenter = d.presenter :=
      Store.get_set_self _ _ _
    rw [own]
    exact (Presenter.isBound_of_fixed stays.fixed).mpr start.bound
  · rw [Workspace.desk_putDesk stays.fixed]
    exact start.desk.requested returns awaited

/-- If no client panics, a drain empties the queue of the window, so the next one finds
nothing. -/
theorem Workspace.drain_returns {w : Workspace (Recorded η)} {h : Handle} {s : Service}
    (updates : ∀ client outline s, ∃ s', H.updateClient client outline s = .ok () s')
    (background : (w.desk h.presenter).outliner = .background s) :
    ∃ taken d broadcast,
      h.drain (H.recorded (some h.presenter)) w = .ok taken (w.putDesk h.presenter d) ∧
      h.drain (H.recorded (some h.presenter)) (w.putDesk h.presenter d) =
        .ok 0 (w.putDesk h.presenter d) ∧
      Desk.drain (H.recorded (some h.presenter)) (w.desk h.presenter) = .ok taken d ∧
      d.outliner = .background { s with broadcast } ∧
      broadcast.queue d.presenter.listener = [] ∧
      d.presenter.client = (w.presenterOf h).client := by
  have updates' : ∀ client outline s, ∃ s',
      (H.recorded (some h.presenter)).updateClient client outline s = .ok () s' := by
    intro client outline s
    obtain ⟨_, told⟩ := updates client outline s.host
    exact ⟨_, Host.recorded_of_ok (some h.presenter) told⟩
  obtain ⟨taken, d, broadcast, drains, outliner, empty, client⟩ :=
    Desk.drainUpTo_returns updates' _ background rfl
  have drains : Desk.drain (H.recorded (some h.presenter)) (w.desk h.presenter) = .ok taken d := by
    have broadcast : (w.desk h.presenter).outliner.broadcast = s.broadcast := by
      rw [background]
      rfl
    rw [← drains, ← broadcast]
    rfl
  have again : Desk.drain (H.recorded (some h.presenter)) d = .ok 0 d := by
    show Desk.drainUpTo _ (d.outliner.broadcast.queue d.presenter.listener).length d = _
    rw [outliner, show (Outliner.background { s with broadcast }).broadcast = broadcast from rfl,
      empty]
    rfl
  have stays : Desk.Stays h.presenter (some h.presenter) (w.desk h.presenter) d :=
    after_of_ok drains ▸ Desk.Stays.drain H (.inl rfl) (w.desk h.presenter)
  have desk : (w.putDesk h.presenter d).desk h.presenter = d := Workspace.desk_putDesk stays.fixed
  refine ⟨taken, d, broadcast, ?_, ?_, drains, outliner, empty, client⟩
  · unfold Handle.drain Workspace.onDesk
    rw [zoom_apply, drains]
  · have same := Workspace.putDesk_desk h.presenter (w.putDesk h.presenter d)
    rw [desk] at same
    unfold Handle.drain Workspace.onDesk
    rw [zoom_apply, desk, again]
    dsimp only
    rw [same]

end

/-- A window asked for an outline, and what happened before and after is any mix of edits,
requests, moves of the loop, attaching, detaching and draining, with any answers of the host.
If the loop rests then and a client is attached, a drain returns, and another one finds
nothing to do.  If the buffer has not changed since the request, and its text has an outline,
this is what the client has got last. -/
theorem drain_converges (H : Host η) {text : η → Snapshot} {buffer : BufferId}
    {outliner : OutlinerId} {grammar : Grammar} {broadcast : Broadcast} {h : Handle}
    {start asked requested w : Workspace (Recorded η)} {s : Service} {client : ClientId}
    (reads : ∀ {s snapshot s'}, H.snapshot buffer s = .ok snapshot s' → snapshot = text s)
    (advances : ∀ call s, text s = text ((H.answer call).after s) ∨
      (text s).version < (text ((H.answer call).after s)).version)
    (updates : ∀ client outline s, ∃ s', H.updateClient client outline s = .ok () s')
    (bound : (start.presenterOf h).IsBound outliner buffer)
    (service : start.outliners.get outliner = .background { grammar, broadcast })
    (hears : broadcast.Hears (start.presenterOf h).listener)
    (unqueued : ∀ listener, broadcast.queue listener = [])
    (detached : (start.presenterOf h).client = none) (silent : start.host.log = [])
    (reached : Reaches H
      (fun w operation => operation.ConcernsWindow text outliner h.presenter w) start asked)
    (asks : h.requestOutline (H.recorded (some h.presenter)) asked = .ok () requested)
    (reached' : Reaches H
      (fun w operation => operation.ConcernsWindow text outliner h.presenter w) requested w)
    (background : w.outliners.get outliner = .background s) (waits : s.phase = .waiting)
    (known : s.requests.hasUnseen = false) (attached : (w.presenterOf h).client = some client) :
    ∃ taken drained, h.drain (H.recorded (some h.presenter)) w = .ok taken drained ∧
      h.drain (H.recorded (some h.presenter)) drained = .ok 0 drained ∧
      (drained.presenterOf h).client = some client ∧
      ∀ outline, text drained.host.host = text asked.host.host →
        grammar.outline (text drained.host.host) = .ok outline →
          (givenTo h.presenter client drained.host.log).getLast? = some outline := by
  have strict : (Timeline.ofEdits text grammar reads advances).Strict grammar :=
    .ofEdits reads advances
  let awaited := (grammar.outline (text asked.host.host)).toOption
  have parsed : ∀ outline, awaited = some outline →
      grammar.outline (text asked.host.host) = .ok outline := fun _ awaits =>
    Grammar.outline_of_toOption awaits
  -- Nothing is awaited before the request, and the outline of its text from then on.
  have asking := reached.invariant
    (Workspace.converging_start reads advances bound service hears unqueued detached silent)
    fun _ _ h concerns => h.perform (fun _ none => nomatch none) concerns
  have converging := reached'.invariant (asking.requested asks awaited)
    fun _ _ h concerns => h.perform parsed concerns
  have upheld : Desk.Upheld (H.recorded (some h.presenter)) (Desk.Converging
      (.ofEdits text grammar reads advances) h.presenter grammar _ awaited) :=
    Desk.upheld_converging strict parsed
  have outliner : (w.desk h.presenter).outliner = .background s := by
    rw [← background, ← converging.bound.1]
    rfl
  obtain ⟨taken, d, broadcast', drains, again, own, outliner', empty, client'⟩ :=
    Workspace.drain_returns updates outliner
  have presenter : (w.putDesk h.presenter d).presenterOf h = d.presenter := Store.get_set_self _ _ _
  refine ⟨taken, w.putDesk h.presenter d, drains, again, ?_, fun outline unchanged outlined => ?_⟩
  · rw [presenter, client']
    exact attached
  · have awaits : awaited = some outline := by
      rw [unchanged] at outlined
      dsimp only [awaited]
      rw [outlined]
      rfl
    have kept := upheld.keeps_drain _ converging.desk
    rw [after_of_ok own, awaits] at kept
    exact kept.given strict (parsed outline awaits) outliner' waits known empty unchanged
      (client'.trans attached)

/-- The bar is made from an old text, and the loop reads the request for the new one. -/
theorem drain_converges_after_edit :
    let H := Host.plain (pure ())
    let text (s : Snapshot) : Snapshot := s
    let grammar : Grammar := fun snapshot => .ok (.ofWholeText snapshot)
    let p : Presenter := ⟨⟨1⟩, ⟨0⟩, ⟨0⟩, ⟨0⟩, ⟨0⟩, ⟨0⟩, ⟨0⟩, ⟨0⟩, none, none, [], 0⟩
    let h : Handle := ⟨⟨1⟩, ⟨0⟩, ⟨0⟩⟩
    let start : Workspace (Recorded Snapshot) := {
      host := ⟨⟨1, "a"⟩, []⟩
      outliners := ⟨1, fun _ => .background { grammar, broadcast := ⟨[{ id := ⟨0⟩ }], 1⟩ }⟩
      presenters := ⟨1, fun _ => p⟩ }
    let allows (w : Workspace (Recorded Snapshot)) (operation : Operation Snapshot) : Prop :=
      operation.ConcernsWindow text ⟨0⟩ ⟨0⟩ w
    ∃ asked requested w taken drained, Reaches H allows start asked ∧
      h.requestOutline (H.recorded (some ⟨0⟩)) asked = .ok () requested ∧
      Reaches H allows requested w ∧ h.drain (H.recorded (some ⟨0⟩)) w = .ok taken drained ∧
      (givenTo ⟨0⟩ (.foreign 0) w.host.log).getLast? = some (.ofWholeText ⟨1, "a"⟩) ∧
      (givenTo ⟨0⟩ (.foreign 0) drained.host.log).getLast? = some (.ofWholeText ⟨2, "b"⟩) := by
  intro H text grammar p h start allows
  let asked := ((Operation.host fun _ => ⟨2, "b"⟩).perform H).after
    (((Operation.window h .attach).perform H).after start)
  let requested := ((Operation.window h .requestOutline).perform H).after asked
  let w := ((Operation.outliner ⟨0⟩ (.loop .finish)).perform H).after
    (((Operation.outliner ⟨0⟩ (.loop .pick)).perform H).after
      (((Operation.outliner ⟨0⟩ (.loop .wake)).perform H).after requested))
  have reached : Reaches H allows start start := .start
  have reached := reached.step (.window h .attach) (by decide +kernel)
  have reached : Reaches H allows start asked := reached.step (.host _) (by decide +kernel)
  have asks : h.requestOutline (H.recorded (some h.presenter)) asked = .ok () requested := by rfl
  have loop : Reaches H allows requested requested := .start
  have loop := loop.step (.outliner ⟨0⟩ (.loop .wake)) (by decide +kernel)
  have loop := loop.step (.outliner ⟨0⟩ (.loop .pick)) (by decide +kernel)
  have loop : Reaches H allows requested w :=
    loop.step (.outliner ⟨0⟩ (.loop .finish)) (by decide +kernel)
  have unqueued : ∀ listener, Broadcast.queue listener ⟨[{ id := ⟨0⟩ }], 1⟩ = [] := by
    intro listener
    by_cases e : (⟨0⟩ : ListenerId) = listener <;> simp [Broadcast.queue, e]
  have advances : ∀ call s, text s = text ((H.answer call).after s) ∨
      (text s).version < (text ((H.answer call).after s)).version := by
    intro call s
    cases call <;> exact .inl rfl
  have updates : ∀ client outline s, ∃ s', H.updateClient client outline s = .ok () s' :=
    fun _ _ s => ⟨s, rfl⟩
  have bound : (start.presenterOf h).IsBound ⟨0⟩ ⟨0⟩ := ⟨rfl, rfl⟩
  have hears : Broadcast.Hears (start.presenterOf h).listener ⟨[{ id := ⟨0⟩ }], 1⟩ :=
    ⟨_, List.mem_singleton.mpr rfl, rfl, rfl⟩
  obtain ⟨taken, drained, drains, -, -, given⟩ := drain_converges H (by rintro s _ _ ⟨⟩; rfl)
    advances updates bound rfl hears unqueued rfl rfl reached asks loop rfl rfl rfl rfl
  have unchanged : drained.host.host = ⟨2, "b"⟩ := by
    rw [← after_of_ok drains]
    decide +kernel
  refine ⟨asked, requested, w, taken, drained, reached, asks, loop, drains, rfl,
    given _ unchanged ?_⟩
  exact congrArg grammar.outline unchanged

end OutlineBar
