/-
Visits of windows beside each other.

The `core` of a workspace is everything but its rosters, its events and the record of calls.  To
tend to a window is to perform an operation on its desk; what that does to the core is an
`Effect` that does not depend on what other windows did before, which is what `tend_beside`
says.  Effects of windows that share no more than an outliner can be interchanged.
-/
import OutlineBar.Proofs.Presenter.Beside
import OutlineBar.Proofs.Session.Synced

namespace OutlineBar

open OutlineBar.Action

variable {η α : Type} {H : Host η} {maker : ClientId → FactoryId} {p q : Presenter}

/-- Everything that the library keeps but rosters, and the host. -/
structure Core (η : Type) where
  host : η
  buffers : Store .buffer Buffer
  outliners : Store .outliner Outliner
  presenters : Store .presenter Presenter
  scopes : Store .scope Scope
  due : List OutlinerId

def Workspace.core (w : Workspace (Recorded η)) : Core η :=
  ⟨w.host.host, w.buffers, w.outliners, w.presenters, w.scopes, w.due⟩

/-! ## Effects -/

/-- What a visit does: the presenter and the properties that it leaves, and the deeds of the
presenter. -/
structure Effect extends Deeds where
  presenter : Presenter
  bag : BufferBag

/-- Whether an effect is one of a presenter on what is its own. -/
structure Effect.IsOf (maker : ClientId → FactoryId) (p : Presenter) (e : Effect) : Prop
    extends Deeds.IsOf maker p e.toDeeds where
  fixed : e.presenter.fixed = p.fixed
  owns : ∀ client, e.presenter.client = some client → p.Owns maker client

namespace Core

variable {c c' : Core η}

/-- The core after a visit of a presenter that was opened as `p`. -/
def visited (H : Host η) (p : Presenter) (id : PresenterId) (e : Effect) (c : Core η) : Core η where
  host := H.afterAll e.exchanges c.host
  buffers := c.buffers.modify p.buffer fun b => { b with bag := e.bag }
  outliners := c.outliners.modify p.outliner (Outliner.useAll e.uses)
  presenters := c.presenters.set id e.presenter
  scopes := c.scopes
  due := c.due

theorem visited_comm (separate : H.Separate maker) (apart : p.Apart H q) {id other : PresenterId}
    (ne : other ≠ id) {e f : Effect} (own : e.IsOf maker p) (own' : f.IsOf maker q) (c : Core η) :
    (c.visited H p id e).visited H q other f = (c.visited H q other f).visited H p id e := by
  have host : H.afterAll f.exchanges (H.afterAll e.exchanges c.host) =
      H.afterAll e.exchanges (H.afterAll f.exchanges c.host) :=
    Host.afterAll_comm (fun x mem y mem' =>
      separate.own apart.symm (own'.calls x mem) (own.calls y mem')) c.host
  have bags {bag bag' : BufferBag} :
      (c.buffers.modify p.buffer fun b => { b with bag }).modify q.buffer
          (fun b => { b with bag := bag' }) =
        (c.buffers.modify q.buffer fun b => { b with bag := bag' }).modify p.buffer
          fun b => { b with bag } :=
    c.buffers.modify_comm fun same => absurd same.symm apart.buffer
  have uses {uses uses' : List OutlinerUse} :
      (c.outliners.modify p.outliner (Outliner.useAll uses)).modify q.outliner
          (Outliner.useAll uses') =
        (c.outliners.modify q.outliner (Outliner.useAll uses')).modify p.outliner
          (Outliner.useAll uses) :=
    c.outliners.modify_comm fun _ o => o.useAll_comm uses uses'
  unfold visited
  dsimp only
  rw [host, bags, uses, c.presenters.set_comm ne]

/-- Whether a presenter that was opened as `p` finds the same in two cores, except that others
have made calls to the host. -/
structure Beside (H : Host η) (maker : ClientId → FactoryId) (p : Presenter) (id : PresenterId)
    (c c' : Core η) : Prop where
  presenter : c'.presenters.get id = c.presenters.get id
  bag : (c'.buffers.get p.buffer).bag = (c.buffers.get p.buffer).bag
  outliner : Outliner.SameFor p.listener (c.outliners.get p.outliner) (c'.outliners.get p.outliner)
  host : ∃ change : η → η, c'.host = change c.host ∧
    ∀ call : HostCall, call.IsOwn (p.Owns maker) p → Through change (H.answer call)

theorem Beside.of_eq {id : PresenterId} (same : c' = c) : Beside H maker p id c c' := by
  subst same
  exact ⟨rfl, rfl, .refl _, fun host => host, rfl, fun _ _ => Through.id⟩

/-- The visit of another window makes no difference. -/
theorem Beside.visited (separate : H.Separate maker) (apart : p.Apart H q) {id other : PresenterId}
    (ne : other ≠ id) {e : Effect} (own : e.IsOf maker p) (c : Core η) :
    Beside H maker q other c (c.visited H p id e) where
  presenter := Store.get_set_of_ne _ _ ne
  bag := by
    have elsewhere : (c.visited H p id e).buffers.get q.buffer = c.buffers.get q.buffer :=
      Store.get_set_of_ne _ _ apart.buffer.symm
    rw [elsewhere]
  outliner := by
    by_cases shared : p.outliner = q.outliner
    · have used : (c.visited H p id e).outliners.get q.outliner =
          (c.outliners.get q.outliner).useAll e.uses := by
        rw [← shared]
        exact Store.get_set_self _ _ _
      rw [used]
      refine Outliner.sameFor_useAll (fun u mem taken => ?_) _
      exact apart.listener shared (own.takes _ (taken ▸ mem)).symm
    · have elsewhere : (c.visited H p id e).outliners.get q.outliner =
          c.outliners.get q.outliner := Store.get_set_of_ne _ _ (Ne.symm shared)
      rw [elsewhere]
      exact .refl _
  host := by
    refine ⟨H.afterAll e.exchanges, rfl, fun call mine => ?_⟩
    exact Host.through_afterAll fun x mem => separate.own apart (own.calls x mem) mine

end Core

/-! ## Visits -/

/-- A window that was visited, what came of it, the calls that it took, and what was noted. -/
structure Visit (α : Type) where
  window : Handle
  answer : α
  calls : List Exchange
  events : List Event

namespace Handle

open Workspace

variable {act : Handle → Action (Workspace (Recorded η)) α} {h : Handle}
  {w w' : Workspace (Recorded η)} {a : α}

/-- Performs an operation on a window, and answers what it came to altogether. -/
def visit (act : Handle → Action (Workspace (Recorded η)) α) (h : Handle) :
    Action (Workspace (Recorded η)) (Visit α) := do
  let before ← get
  let answer ← act h
  let after ← get
  return {
    window := h
    answer
    calls := (exchangesIn after.host.log).drop (exchangesIn before.host.log).length
    events := after.trace.drop before.trace.length }

theorem visit_of_ok {calls : List Exchange} {events : List Event} (done : act h w = .ok a w')
    (called : exchangesIn w'.host.log = exchangesIn w.host.log ++ calls)
    (noted : w'.trace = w.trace ++ events) : h.visit act w = .ok ⟨h, a, calls, events⟩ w' := by
  have visited : h.visit act w = .ok ⟨h, a,
      (exchangesIn w'.host.log).drop (exchangesIn w.host.log).length,
      w'.trace.drop w.trace.length⟩ w' := (bind_of_ok done _).trans rfl
  rw [visited, called, noted, List.drop_left, List.drop_left]

/-- What is made of the answer of an operation can be made of the visit as well. -/
theorem bind_visit {β : Type} (act : Handle → Action (Workspace (Recorded η)) α)
    (make : Handle → α → β) (h : Handle) :
    (do return make h (← act h)) = do
      let v ← h.visit act
      return make v.window v.answer := by
  funext w
  cases done : act h w with
  | ok a w' =>
    have visited : h.visit act w = .ok _ w' := (bind_of_ok done _).trans rfl
    rw [bind_of_ok done, bind_of_ok visited]
  | error p w' =>
    have visited : h.visit act w = .error p w' := bind_of_error done _
    rw [bind_of_error done, bind_of_error visited]

/-- Performs an operation on the desk of a window and notes what it answered. -/
def tend (act : Action (Desk (Recorded η)) α) (note : Handle → α → List Event) (h : Handle) :
    Action (Workspace (Recorded η)) α := do
  let answer ← onDesk h.presenter act
  modify fun w => { w with trace := w.trace ++ note h answer }
  return answer

theorem tend_of_ok {act : Action (Desk (Recorded η)) α} {h : Handle} {w : Workspace (Recorded η)}
    {a : α} {d : Desk (Recorded η)} (done : act (w.desk h.presenter) = .ok a d)
    (note : Handle → α → List Event) :
    h.tend act note w =
      .ok a { w.putDesk h.presenter d with trace := d.trace ++ note h a } := by
  exact (bind_of_ok (onDesk_of_ok done) _).trans rfl

theorem tend_of_error {act : Action (Desk (Recorded η)) α} {h : Handle} {w : Workspace (Recorded η)}
    {p : Panic} {d : Desk (Recorded η)} (failed : act (w.desk h.presenter) = .error p d)
    (note : Handle → α → List Event) : h.tend act note w = .error p (w.putDesk h.presenter d) :=
  bind_of_error (onDesk_of_error failed) _

end Handle

/-- Whether visits of some windows led from one workspace to another. -/
structure Visited (mine : Handle → HostCall → Prop) (handles : List Handle)
    (visits : List (Visit α)) (w w' : Workspace (Recorded η)) : Prop where
  windows : visits.map Visit.window = handles
  own : ∀ v ∈ visits, ∀ x ∈ v.calls, mine v.window x.1
  calls : exchangesIn w'.host.log = exchangesIn w.host.log ++ visits.flatMap Visit.calls
  events : w'.trace = w.trace ++ visits.flatMap Visit.events
  rosters : w'.rosters = w.rosters

/-- What a window that is not disturbed finds of the host and of its presenter. -/
structure Workspace.Ready (maker : ClientId → FactoryId) (p : Presenter) (id : PresenterId)
    (w : Workspace (Recorded η)) : Prop where
  sound : w.Sound
  fixed : (w.presenters.get id).fixed = p.fixed
  owns : ∀ client, (w.presenters.get id).client = some client → p.Owns maker client

namespace Workspace

variable {w w' : Workspace (Recorded η)} {act : Action (Desk (Recorded η)) α} {h : Handle}

theorem core_putDesk {id : PresenterId} {d : Desk (Recorded η)} {e : Effect} {trace : List Event}
    (fixed : (w.presenters.get id).fixed = p.fixed)
    (did : Desk.Did H (w.desk id) d e.toDeeds) (presenter : e.presenter = d.presenter)
    (bag : e.bag = d.bag) :
    core { w.putDesk id d with trace } = w.core.visited H p id e := by
  have outliner : d.outliner = (w.outliners.get p.outliner).useAll e.uses := by
    rw [did.outliner, ← outliner_of_fixed fixed]
    rfl
  have host : d.host.host = H.afterAll e.exchanges w.host.host := did.host
  unfold core Core.visited putDesk Store.modify
  dsimp only
  rw [host, outliner, presenter, bag, outliner_of_fixed fixed, buffer_of_fixed fixed]

/-- What visiting a window comes to in two workspaces in which it finds the same. -/
theorem visit_beside (steady : H.Steady) (separate : H.Separate maker)
    (common : Desk.Common H maker act) (note : Handle → α → List Event)
    (ready : w.Ready maker p h.presenter)
    (beside : Core.Beside H maker p h.presenter w.core w'.core) :
    ∃ v e w₁ w₁', e.IsOf maker p ∧ h.visit (Handle.tend act note) w = .ok v w₁ ∧
      h.visit (Handle.tend act note) w' = .ok v w₁' ∧
      w₁.core = w.core.visited H p h.presenter e ∧ w₁'.core = w'.core.visited H p h.presenter e ∧
      w₁.Sound ∧ Visited (fun _ call => call.IsOwn (p.Owns maker) p) [h] [v] w w₁ := by
  have presenter : w'.presenters.get h.presenter = w.presenters.get h.presenter := beside.presenter
  have fixed := ready.fixed
  have fixed' : (w'.presenters.get h.presenter).fixed = p.fixed := by
    rw [presenter]
    exact fixed
  have outliner {w : Workspace (Recorded η)}
      (fixed : (w.presenters.get h.presenter).fixed = p.fixed) :
      (w.desk h.presenter).outliner = w.outliners.get p.outliner :=
    congrArg w.outliners.get (outliner_of_fixed fixed)
  have bag {w : Workspace (Recorded η)} (fixed : (w.presenters.get h.presenter).fixed = p.fixed) :
      (w.desk h.presenter).bag = (w.buffers.get p.buffer).bag :=
    congrArg (fun id => (w.buffers.get id).bag) (buffer_of_fixed fixed)
  have start : Desk.Beside H maker p (w.desk h.presenter) (w'.desk h.presenter)
      (w.desk h.presenter) (w'.desk h.presenter) := by
    refine ⟨presenter, ?_, fixed, ready.owns, ready.sound _, ?_, beside.host, {}, ⟨nofun, nofun⟩,
      .refl H _, .refl H _⟩
    · rw [bag fixed, bag fixed']
      exact beside.bag
    · rw [outliner fixed, outliner fixed']
      exact beside.outliner
  obtain ⟨a, d, d', done, done', after⟩ :=
    common (Desk.paired_beside steady separate none p _ _) start
  obtain ⟨deeds, isOf, did, did'⟩ := after.did
  have noted {w : Workspace (Recorded η)} {d : Desk (Recorded η)}
      (did : Desk.Did H (w.desk h.presenter) d deeds) :
      d.trace ++ note h a = w.trace ++ (deeds.events ++ note h a) := by
    rw [did.trace, List.append_assoc]
    rfl
  refine ⟨⟨h, a, deeds.exchanges, deeds.events ++ note h a⟩,
    { deeds with presenter := d.presenter, bag := d.bag }, _, _, ⟨isOf, after.fixed, after.owns⟩,
    Handle.visit_of_ok (Handle.tend_of_ok done note) did.log (noted did),
    Handle.visit_of_ok (Handle.tend_of_ok done' note) did'.log (noted did'),
    core_putDesk fixed did rfl rfl, core_putDesk fixed' did' after.presenter.symm after.bag.symm,
    ready.sound.set after.sound, rfl, ?_, ?_, ?_, rfl⟩
  · intro v mem
    rw [List.mem_singleton.mp mem]
    exact isOf.calls
  · rw [List.flatMap_singleton]
    exact did.log
  · rw [List.flatMap_singleton]
    exact noted did

end Workspace

end OutlineBar
