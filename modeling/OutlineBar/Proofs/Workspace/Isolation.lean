/-
Windows with services of their own do not hear of each other.

A resolver makes a new service for every window on a buffer that it does not own.  An `Account`
notes, along a run of such windows, what each of them asked its outliner for and what it took
from its queue.  `HasOwn` says of a window that no other window has its outliner, and that its
completions answer requests of its own; every operation keeps this, whoever performs it.

No outliner is handed out twice, because services are numbered in the order in which they are
made.  A window on a buffer that brings its outliner shares it with others, but a service that was
made for one window is never brought by a buffer.
-/
import OutlineBar.Proofs.Presenter.Draining
import OutlineBar.Proofs.Service.Answers
import OutlineBar.Proofs.Workspace.Opening
import OutlineBar.Proofs.Workspace.Strides

namespace OutlineBar

open OutlineBar.Action

variable {η : Type}

/-! ## What a presenter asks for and takes -/

/-- What an operation asks a service to parse in the background. -/
def DeskOperation.asks (H : Host η) (d : Desk η) : DeskOperation → List Snapshot
  | requestOutline =>
    match H.snapshot d.presenter.buffer d.host with
    | .ok snapshot _ => [snapshot]
    | .error .. => []
  | _ => []

/-- What an operation takes from the front of the presenter's queue. -/
def DeskOperation.takes (H : Host η) (d : Desk η) (operation : DeskOperation) : List Completion :=
  d.pending.take (d.pending.length - (operation.leaves H d).pending.length)

theorem DeskOperation.takes_eq {H : Host η} {d : Desk η} {operation : DeskOperation}
    {taken : List Completion} (split : d.pending = taken ++ (operation.leaves H d).pending) :
    operation.takes H d = taken := by
  unfold takes
  rw [split, List.length_append, Nat.add_sub_cancel, List.take_left]

namespace Desk

variable {H : Host η} {grammar : Grammar} {asked : List Snapshot} {given : List Completion}

/-- Whether what a presenter was told answers its requests, after it took something from the
queue that it had at the start. -/
structure Told (grammar : Grammar) (asked : List Snapshot) (given : List Completion)
    (start d : Desk η) : Prop where
  listener : d.presenter.listener = start.presenter.listener
  taken : ∃ s taken, d.outliner = .background s ∧ start.pending = taken ++ d.pending ∧
    s.Tells grammar start.presenter.listener asked (given ++ taken)

theorem bound_told (start : Desk η) : Bound H (Told grammar asked given start) where
  call d call _ _ told := ⟨told.listener, told.taken⟩
  quiet d d' same outliner host told := by
    have listener := listener_of_fixed same
    have pending : d'.pending = d.pending := by
      unfold pending
      rw [outliner, listener]
    refine ⟨listener.trans told.listener, ?_⟩
    rw [outliner, pending]
    exact told.taken
  parse d service snapshot own told := by
    obtain ⟨s, taken, background, split, tells⟩ := told.taken
    cases own.symm.trans background
    refine ⟨told.listener, _, taken, rfl, ?_, tells.quiet rfl rfl rfl rfl⟩
    rw [split]
    unfold pending
    rw [own]
    rfl

/-- Taking a completion tells nothing new. -/
theorem Told.take {start d : Desk η} (told : Told grammar asked given start d)
    {completion : Completion} {outliner : Outliner}
    (took : d.outliner.take? d.presenter.listener = some (completion, outliner)) :
    Told grammar asked given start { d with outliner } := by
  obtain ⟨s, taken, background, split, tells⟩ := told.taken
  rw [background] at took
  obtain ⟨⟨_, broadcast⟩, result, e⟩ := Option.map_eq_some_iff.mp took
  cases e
  refine ⟨told.listener, _, taken ++ [completion], rfl, ?_, ?_⟩
  · rw [split, List.append_assoc]
    unfold pending
    rw [background]
    exact congrArg (taken ++ ·) (Broadcast.queue_take_self result)
  · rw [told.listener] at result
    rw [← List.append_assoc]
    exact tells.take result

theorem leaves_requestOutline (H : Host η) {d : Desk η} {s : Service}
    (own : d.outliner = .background s) :
    (∃ host, DeskOperation.requestOutline.asks H d = [] ∧
      DeskOperation.requestOutline.leaves H d = { d with host }) ∨
    ∃ snapshot host trace, DeskOperation.requestOutline.asks H d = [snapshot] ∧
      DeskOperation.requestOutline.leaves H d =
        { d with outliner := .background (s.request snapshot), host, trace } := by
  have e := requestOutline_eq H d
  unfold DeskOperation.asks DeskOperation.leaves
  dsimp only
  cases taken : H.snapshot d.presenter.buffer d.host with
  | error p host =>
    rw [taken] at e
    exact .inl ⟨host, rfl, after_of_error e⟩
  | ok snapshot host =>
    rw [taken, own] at e
    exact .inr ⟨snapshot, host, _, rfl, after_of_ok e⟩

/-- Whatever a presenter does that has a service, the service tells it of its own requests. -/
theorem tells_leaves (H : Host η) {d : Desk η} {s : Service} (own : d.outliner = .background s)
    (tells : s.Tells grammar d.presenter.listener asked given) (operation : DeskOperation) :
    ∃ s', (operation.leaves H d).outliner = .background s' ∧
      s'.Tells grammar d.presenter.listener (asked ++ operation.asks H d)
        (given ++ operation.takes H d) := by
  have bound : Bound H (Told grammar asked given d) := bound_told d
  have start : Told grammar asked given d d :=
    ⟨rfl, s, [], own, rfl, (List.append_nil given).symm ▸ tells⟩
  -- All but a request ask for nothing, and what they took they took from the front of the queue.
  have ends (none : operation.asks H d = [])
      (told : Told grammar asked given d (operation.leaves H d)) :
      ∃ s', (operation.leaves H d).outliner = .background s' ∧
        s'.Tells grammar d.presenter.listener (asked ++ operation.asks H d)
          (given ++ operation.takes H d) := by
    obtain ⟨s', taken, background, split, tells⟩ := told.taken
    rw [none, List.append_nil, DeskOperation.takes_eq split]
    exact ⟨s', background, tells⟩
  cases operation with
  | attach => exact ends rfl (bound.keeps_attach d start)
  | detach => exact ends rfl (bound.keeps_detach d start)
  | accept completion => exact ends rfl (bound.keeps_accept completion d start)
  | drain => exact ends rfl (bound.keeps_drain (fun d _ _ took told => told.take took) d start)
  | noteView view => exact ends rfl (bound.keeps_noteView view d start)
  | recordViews => exact ends rfl (bound.keeps_recordViews d start)
  | requestOutline =>
    rcases leaves_requestOutline H own with
      ⟨host, none, left⟩ | ⟨snapshot, host, trace, asked', left⟩
    · refine ends none ⟨by rw [left], s, [], ?_, ?_, (List.append_nil given).symm ▸ tells⟩
      · rw [left]
        exact own
      · rw [left]
        rfl
    · have taken : DeskOperation.requestOutline.takes H d = [] := by
        refine DeskOperation.takes_eq ?_
        rw [left]
        unfold pending
        rw [own]
        rfl
      rw [asked', taken, left, List.append_nil]
      exact ⟨_, rfl, tells.request snapshot⟩

end Desk

/-! ## Who has which outliner -/

/-- The outliner that a buffer brings. -/
def Workspace.brings (w : Workspace η) (buffer : BufferId) : Option OutlinerId :=
  (w.buffers.get buffer).bag.get? .installedOutliner

/-- Whether the outliners of all presenters and buffers exist. -/
structure Workspace.Refers (w : Workspace η) : Prop where
  presenters : ∀ id, id.index < w.presenters.size →
    (w.presenters.get id).outliner.index < w.outliners.size
  buffers : ∀ buffer outliner, w.brings buffer = some outliner →
    outliner.index < w.outliners.size

/-- Whether nothing was opened, made or installed in between, and no presenter was bound anew. -/
structure Workspace.SameBonds (w w' : Workspace η) : Prop where
  count : w'.presenters.size = w.presenters.size
  fixed : ∀ id, (w'.presenters.get id).fixed = (w.presenters.get id).fixed
  brings : ∀ buffer, w'.brings buffer = w.brings buffer
  outliners : w'.outliners.size = w.outliners.size

namespace Workspace

variable {w w' : Workspace η}

theorem SameBonds.refers (same : w.SameBonds w') (h : w.Refers) : w'.Refers where
  presenters id known := by
    rw [same.count] at known
    rw [outliner_of_fixed (same.fixed id), same.outliners]
    exact h.presenters id known
  buffers buffer outliner brought := by
    rw [same.brings] at brought
    rw [same.outliners]
    exact h.buffers buffer outliner brought

/-- No operation of a presenter changes what a buffer brings, although it may put a client
beside it. -/
theorem sameBonds_putDesk (H : Host η) {id : PresenterId} {caller : Option PresenterId}
    (mine : id.Allows caller) (operation : DeskOperation) (w : Workspace (Recorded η)) :
    w.SameBonds (w.putDesk id (operation.leaves (H.recorded caller) (w.desk id))) := by
  have stays := Desk.Stays.leaves H mine operation (w.desk id)
  refine ⟨rfl, w.presenters.map_get_set Presenter.fixed stays.fixed, fun buffer => ?_, rfl⟩
  refine w.buffers.map_get_set (fun b => b.bag.get? .installedOutliner) ?_ buffer
  have slot := stays.others .installedOutliner nofun
  show Bag.get? _ _ = Bag.get? _ _
  unfold Bag.get?
  rw [slot]
  rfl

theorem Untouched.brings (untouched : w.Untouched w') (buffer : BufferId) :
    w'.brings buffer = w.brings buffer := by
  unfold Workspace.brings
  rw [untouched.buffers]

theorem Untouched.refers (untouched : w.Untouched w') (h : w.Refers) : w'.Refers where
  presenters id known := by
    rw [untouched.presenters] at known ⊢
    exact Nat.lt_of_lt_of_le (h.presenters id known) untouched.grown
  buffers buffer outliner brought :=
    Nat.lt_of_lt_of_le (h.buffers buffer outliner (untouched.brings buffer ▸ brought))
      untouched.grown

/-- Whether a presenter is the only one with its outliner, which is a service with this grammar
and tells it outlines of its own requests: it asked for these and was given those, and others
are in its queue. -/
structure HasOwn (w : Workspace η) (id : PresenterId) (grammar : Grammar)
    (asked : List Snapshot) (given : List Completion) : Prop where
  known : id.index < w.presenters.size
  alone : ∀ other, other.index < w.presenters.size → other ≠ id →
    (w.presenters.get other).outliner ≠ (w.presenters.get id).outliner
  unbrought : ∀ buffer, w.brings buffer ≠ some (w.presenters.get id).outliner
  service : ∃ s, w.outliners.get (w.presenters.get id).outliner = .background s ∧
    s.Tells grammar (w.presenters.get id).listener asked given

namespace HasOwn

variable {id : PresenterId} {grammar : Grammar} {asked asked' : List Snapshot}
  {given given' : List Completion}

theorem bonds (h : w.HasOwn id grammar asked given) (same : w.SameBonds w')
    (service : ∃ s, w'.outliners.get (w.presenters.get id).outliner = .background s ∧
      s.Tells grammar (w.presenters.get id).listener asked' given') :
    w'.HasOwn id grammar asked' given' := by
  have outliner (other : PresenterId) := outliner_of_fixed (same.fixed other)
  refine ⟨same.count ▸ h.known, fun other known ne => ?_, fun buffer => ?_, ?_⟩
  · rw [same.count] at known
    rw [outliner, outliner]
    exact h.alone other known ne
  · rw [same.brings, outliner]
    exact h.unbrought buffer
  · rw [outliner, listener_of_fixed (same.fixed id)]
    exact service

theorem untouched (h : w.HasOwn id grammar asked given) (refers : w.Refers)
    (untouched : w.Untouched w') : w'.HasOwn id grammar asked given := by
  obtain ⟨known, alone, unbrought, service⟩ := h
  have same := untouched.outliners _ (refers.presenters id known)
  rw [← same] at service
  rw [← untouched.presenters] at known alone unbrought service
  exact ⟨known, alone, fun buffer => untouched.brings buffer ▸ unbrought buffer, service⟩

/-- The answers that a presenter got and those that wait for it. -/
theorem answers (h : w.HasOwn id grammar asked given) :
    grammar.Answers asked (given ++ (w.desk id).pending) := by
  obtain ⟨s, background, tells⟩ := h.service
  have pending : (w.desk id).pending = s.broadcast.queue (w.presenters.get id).listener := by
    show (w.outliners.get (w.presenters.get id).outliner).broadcast.queue _ = _
    rw [background]
    rfl
  rw [pending]
  exact tells.answers

end HasOwn

/-! ## Openings -/

section
variable {H : Host η} {parts : WindowParts} {scope : ScopeId} {resolver : Resolver}
  {outliner : OutlinerId} {handle : Handle} {id : PresenterId} {grammar : Grammar}
  {asked : List Snapshot} {given : List Completion} {w found w' : Workspace (Recorded η)}

/-- An outliner that a resolver found belongs to no presenter that has one of its own. -/
theorem HasOwn.ne_found (h : w.HasOwn id grammar asked given) (refers : w.Refers)
    (resolved : resolveOutliner (H.recorded none) (.rule resolver) parts.buffer w =
      .ok (.ok outliner) found) : (w.presenters.get id).outliner ≠ outliner := by
  rcases found_of_rule resolved with ⟨-, brought, -⟩ | ⟨-, grammar, -, rfl, -⟩
  · exact fun e => h.unbrought parts.buffer (brought.trans (congrArg some e.symm))
  · intro e
    have given := refers.presenters id h.known
    rw [e] at given
    exact absurd given (Nat.lt_irrefl _)

theorem Opened.brings (made : Opened parts scope outliner w found handle w') (buffer : BufferId) :
    w'.brings buffer = w.brings buffer := by
  unfold Workspace.brings
  rw [made.buffers]

theorem Opened.eq_or_lt (made : Opened parts scope outliner w found handle w') {id : PresenterId}
    (known : id.index < w'.presenters.size) :
    id = handle.presenter ∨ id.index < w.presenters.size := by
  rw [made.one] at known
  rw [made.handle]
  exact (Nat.lt_succ_iff_lt_or_eq.mp known).symm.imp_left fun e => congrArg Ref.mk e

theorem Opened.outliner_eq (made : Opened parts scope outliner w found handle w') :
    (w'.presenters.get handle.presenter).outliner = outliner := by
  obtain ⟨priority, presenter⟩ := made.presenter
  exact congrArg Presenter.outliner presenter

theorem Opened.refers (made : Opened parts scope outliner w found handle w') (h : w.Refers)
    (resolved : resolveOutliner (H.recorded none) (.rule resolver) parts.buffer w =
      .ok (.ok outliner) found) : w'.Refers where
  presenters id known := by
    rw [made.count]
    rcases made.eq_or_lt known with rfl | old
    · rw [made.outliner_eq]
      rcases found_of_rule resolved with ⟨-, brought, rfl⟩ | ⟨-, grammar, -, rfl, rfl⟩
      · exact h.buffers _ _ brought
      · rw [size_withService]
        exact Nat.lt_succ_self _
    · rw [made.others id old]
      exact Nat.lt_of_lt_of_le (h.presenters id old) made.search.grown
  buffers buffer outliner brought := by
    rw [made.brings] at brought
    rw [made.count]
    exact Nat.lt_of_lt_of_le (h.buffers buffer outliner brought) made.search.grown

/-- A presenter that has an outliner of its own keeps it when another window is opened. -/
theorem HasOwn.opened (h : w.HasOwn id grammar asked given) (refers : w.Refers)
    (resolved : resolveOutliner (H.recorded none) (.rule resolver) parts.buffer w =
      .ok (.ok outliner) found)
    (made : Opened parts scope outliner w found handle w') :
    w'.HasOwn id grammar asked given := by
  have ne := h.ne_found refers resolved
  have mine : w'.presenters.get id = w.presenters.get id := made.others id h.known
  have same := (made.outliners _ ne).trans
    (made.search.outliners _ (refers.presenters id h.known))
  obtain ⟨known, alone, unbrought, service⟩ := h
  rw [← same] at service
  rw [← mine] at ne unbrought service
  refine ⟨?_, fun other there other_ne => ?_, fun buffer => made.brings buffer ▸ unbrought buffer,
    service⟩
  · rw [made.one]
    exact Nat.lt_succ_of_lt known
  · rcases made.eq_or_lt there with rfl | old
    · rw [made.outliner_eq]
      exact ne.symm
    · rw [made.others other old, mine]
      exact alone other old other_ne

/-- A presenter for which a service was made has it for itself. -/
theorem Opened.hasOwn (made : Opened parts scope outliner w found handle w') (refers : w.Refers)
    (resolved : resolveOutliner (H.recorded none) (.rule resolver) parts.buffer w =
      .ok (.ok outliner) found)
    (foreign : resolver.owns (w.buffers.get parts.buffer).contentType = false)
    (has : resolver.grammar = some grammar) : w'.HasOwn handle.presenter grammar [] [] := by
  rcases found_of_rule resolved with ⟨owned, -, -⟩ | ⟨-, grammar', has', rfl, rfl⟩
  · exact nomatch foreign.symm.trans owned
  · cases has.symm.trans has'
    obtain ⟨priority, presenter⟩ := made.presenter
    have listener := congrArg Presenter.listener presenter
    have subscribed := made.subscribed
    rw [get_withService_self] at listener subscribed
    refine ⟨made.known, fun other there ne => ?_, fun buffer brought => ?_, ?_⟩
    · have old := (made.eq_or_lt there).resolve_left ne
      have given := refers.presenters other old
      rw [made.outliner_eq, made.others other old]
      intro e
      rw [e] at given
      exact absurd given (Nat.lt_irrefl _)
    · rw [made.brings, made.outliner_eq] at brought
      exact absurd (refers.buffers buffer _ brought) (Nat.lt_irrefl _)
    · rw [made.outliner_eq, show (w'.presenters.get handle.presenter).listener = _ from listener]
      exact ⟨_, subscribed, Service.Tells.start grammar⟩

end

end Workspace

/-! ## Accounts -/

theorem WindowOperation.after_eq_putDesk {operation : WindowOperation} {desk : DeskOperation}
    (is : operation.desk? = some desk) (H : Host η) (h : Handle) (w : Workspace η) :
    ∃ due, (operation.perform H h).after w =
      { w.putDesk h.presenter (desk.leaves H (w.desk h.presenter)) with due } := by
  let P (v : Workspace η) : Prop :=
    ∃ due, v = { w.putDesk h.presenter (desk.leaves H (w.desk h.presenter)) with due }
  have onDesk {α : Type} {act : Action (Desk η) α} (same : ∀ d, act.after d = desk.leaves H d) :
      P ((Workspace.onDesk h.presenter act).after w) := by
    unfold Workspace.onDesk
    rw [after_zoom, same]
    exact ⟨_, rfl⟩
  cases operation with
  | attach | detach | accept _ | drain =>
    cases is
    exact Keeps.after_bind (onDesk fun _ => rfl) fun _ _ _ h => h
  | requestOutline =>
    cases is
    refine Keeps.after_bind (P := P) (onDesk fun _ => rfl) fun _ v _ ⟨due, e⟩ => ?_
    show P (v.wake _)
    unfold Workspace.wake
    rw [e]
    split <;> exact ⟨_, rfl⟩
  | noteView view =>
    cases is
    refine Keeps.after_bind (P := P) ?_ fun _ _ _ h => h
    exact Keeps.after_bind (onDesk fun _ => rfl) fun _ _ _ h => h
  | _ => cases is

/-- The grammar of the service that is made for a new window, if one is. -/
def WindowParts.ownGrammar? (w : Workspace η) (parts : WindowParts) : Option Grammar :=
  match parts.source with
  | .rule resolver =>
    if resolver.owns (w.buffers.get parts.buffer).contentType then none else resolver.grammar
  | .host _ => none

/-- A workspace, and what its windows asked their outliners for and were given by them so
far. -/
structure Account (η : Type) where
  workspace : Workspace (Recorded η)
  /-- The grammars of the windows that were opened with a service of their own. -/
  grammar : PresenterId → Option Grammar := fun _ => none
  asked : PresenterId → List Snapshot := fun _ => []
  given : PresenterId → List Completion := fun _ => []

namespace Account

open Workspace

/-- The account after an operation. -/
def step (H : Host η) (a : Account η) (operation : Operation η) : Account η :=
  let left := (operation.perform H).after a.workspace
  match operation with
  | .openWindow parts scope =>
    match openWindow (H.recorded none) parts scope a.workspace with
    | .ok (.ok h) _ => { a with
        workspace := left
        grammar := Function.update a.grammar h.presenter (parts.ownGrammar? a.workspace) }
    | _ => { a with workspace := left }
  | .window ⟨_, _, id⟩ operation =>
    match operation.desk? with
    | some operation =>
      let H := H.recorded (some id)
      let desk := a.workspace.desk id
      { a with
        workspace := left
        asked := Function.update a.asked id (a.asked id ++ operation.asks H desk)
        given := Function.update a.given id (a.given id ++ operation.takes H desk) }
    | none => { a with workspace := left }
  | _ => { a with workspace := left }

end Account

/-- Whether an operation is one of those of windows that resolvers find outliners for, of
their outliners, or of the host.  Every request is made by a window, and grammars stay the
same. -/
def Operation.IsByRule (w : Workspace (Recorded η)) : Operation η → Prop
  | openWindow parts _ => ∃ resolver, parts.source = .rule resolver
  | window h operation => w.Knows h ∧ operation.desk?.isSome = true
  | session .. => False
  | outliner _ (.request _) | outliner _ (.turnGrammar _) => False
  | outliner .. | host _ => True

namespace Account

open Workspace

/-- The accounts of runs from `start`. -/
inductive Follows (H : Host η) (start : Workspace (Recorded η)) : Account η → Prop
  | start : Follows H start { workspace := start }
  | step {a : Account η} (run : Follows H start a) (operation : Operation η)
      (allowed : operation.IsByRule a.workspace) : Follows H start (a.step H operation)

/-- What holds of every account. -/
structure Sound (a : Account η) : Prop where
  refers : a.workspace.Refers
  own : ∀ {id grammar}, a.grammar id = some grammar →
    a.workspace.HasOwn id grammar (a.asked id) (a.given id)
  new : ∀ id, a.workspace.presenters.size ≤ id.index →
    a.grammar id = none ∧ a.asked id = [] ∧ a.given id = []

variable {a a' : Account η} {H : Host η}

/-- What an operation that opens no window has to show. -/
theorem Sound.bonds (h : a.Sound) (same : a.workspace.SameBonds a'.workspace)
    (grammars : a'.grammar = a.grammar)
    (quiet : ∀ id, a.workspace.presenters.size ≤ id.index →
      a'.asked id = a.asked id ∧ a'.given id = a.given id)
    (service : ∀ {id grammar s}, a.workspace.HasOwn id grammar (a.asked id) (a.given id) →
      a.workspace.outliners.get (a.workspace.presenters.get id).outliner = .background s →
      s.Tells grammar (a.workspace.presenters.get id).listener (a.asked id) (a.given id) →
      ∃ s', a'.workspace.outliners.get (a.workspace.presenters.get id).outliner = .background s' ∧
        s'.Tells grammar (a.workspace.presenters.get id).listener (a'.asked id) (a'.given id)) :
    a'.Sound where
  refers := same.refers h.refers
  own {id grammar} has := by
    rw [grammars] at has
    obtain ⟨s, background, tells⟩ := (h.own has).service
    exact (h.own has).bonds same (service (h.own has) background tells)
  new id new := by
    rw [same.count] at new
    rw [grammars, (quiet id new).1, (quiet id new).2]
    exact h.new id new

theorem Sound.host (h : a.Sound) (H : Host η) (change : η → η) :
    (a.step H (.host change)).Sound :=
  h.bonds ⟨rfl, fun _ => rfl, fun _ => rfl, rfl⟩ rfl (fun _ _ => ⟨rfl, rfl⟩)
    fun _ background tells => ⟨_, background, tells⟩

/-- A service that moves or is told to end; the completions of a host do not come from
services. -/
theorem Sound.outliner (h : a.Sound) (H : Host η) {operation : OutlinerOperation}
    (outliner : OutlinerId)
    (allowed : (Operation.outliner outliner operation).IsByRule a.workspace) :
    (a.step H (.outliner outliner operation)).Sound := by
  refine h.bonds ⟨rfl, fun _ => rfl, fun _ => rfl, rfl⟩ rfl (fun _ _ => ⟨rfl, rfl⟩)
    fun {id grammar s} _ background tells => ?_
  show ∃ s', (a.workspace.outliners.set outliner _).get _ = _ ∧ _
  by_cases mine : (a.workspace.presenters.get id).outliner = outliner
  · subst mine
    rw [Store.get_set_self, background]
    refine ⟨(operation.onService s).1, rfl, ?_⟩
    cases operation with
    | loop m => exact tells.move m
    | announce completion => exact tells
    | shutdown => exact tells.quiet rfl rfl rfl rfl
    | request snapshot => exact allowed.elim
    | turnGrammar grammar => exact allowed.elim
  · rw [Store.get_set_of_ne _ _ mine]
    exact ⟨s, background, tells⟩

theorem Sound.window (h : a.Sound) (H : Host η) {handle : Handle} {operation : WindowOperation}
    (known : a.workspace.Knows handle) (alone : operation.desk?.isSome = true) :
    (a.step H (.window handle operation)).Sound := by
  obtain ⟨desk, is⟩ := Option.isSome_iff_exists.mp alone
  obtain ⟨window, scope, p⟩ := handle
  obtain ⟨due, left⟩ := WindowOperation.after_eq_putDesk is (H.recorded (some p)) ⟨window, scope, p⟩
    a.workspace
  have mine : p.Allows (some p) := .inl rfl
  have same := sameBonds_putDesk H mine desk a.workspace
  have after : a.step H (.window ⟨window, scope, p⟩ operation) = { a with
      workspace := { a.workspace.putDesk p
        (desk.leaves (H.recorded (some p)) (a.workspace.desk p)) with due }
      asked := Function.update a.asked p
        (a.asked p ++ desk.asks (H.recorded (some p)) (a.workspace.desk p))
      given := Function.update a.given p
        (a.given p ++ desk.takes (H.recorded (some p)) (a.workspace.desk p)) } := by
    rw [← left]
    unfold step
    dsimp only
    rw [is]
    rfl
  rw [after]
  refine h.bonds ⟨same.count, same.fixed, same.brings, same.outliners⟩ rfl (fun id new => ?_)
    fun {id grammar s} own background tells => ?_
  · have ne : id ≠ p := fun e => absurd known (Nat.not_lt.mpr (e ▸ new))
    exact ⟨Function.update_of_ne ne _ _, Function.update_of_ne ne _ _⟩
  · show ∃ s', (a.workspace.outliners.set (a.workspace.presenters.get p).outliner _).get _ = _ ∧ _
    by_cases e : id = p
    · subst e
      obtain ⟨s', background', tells'⟩ := Desk.tells_leaves (H.recorded (some id))
        (d := a.workspace.desk id) background tells desk
      rw [Store.get_set_self]
      dsimp only
      rw [Function.update_self, Function.update_self]
      exact ⟨s', background', tells'⟩
    · rw [Store.get_set_of_ne _ _ (own.alone p known (Ne.symm e)).symm]
      dsimp only
      rw [Function.update_of_ne e, Function.update_of_ne e]
      exact ⟨s, background, tells⟩

theorem Sound.untouched (h : a.Sound) {w' : Workspace (Recorded η)}
    (untouched : a.workspace.Untouched w') : Sound { a with workspace := w' } :=
  ⟨untouched.refers h.refers, fun has => (h.own has).untouched h.refers untouched,
    fun id new => h.new id (untouched.presenters ▸ new)⟩

theorem Sound.openWindow (h : a.Sound) (H : Host η) {parts : WindowParts} {resolver : Resolver}
    (rule : parts.source = .rule resolver) (scope : ScopeId) :
    (a.step H (.openWindow parts scope)).Sound := by
  have left : ((Operation.openWindow parts scope).perform H).after a.workspace =
      (Workspace.openWindow (H.recorded none) parts scope).after a.workspace := by
    show (Workspace.openWindow (H.recorded none) parts scope >>= fun _ => pure ()).after _ = _
    unfold after
    rw [bind_apply]
    cases Workspace.openWindow (H.recorded none) parts scope a.workspace <;> rfl
  unfold step
  dsimp only
  rw [left]
  cases ends : Workspace.openWindow (H.recorded none) parts scope a.workspace with
  | error p w' =>
    rw [after_of_error ends]
    exact h.untouched (untouched_of_panic ends)
  | ok answer w' =>
    rw [after_of_ok ends]
    cases answer with
    | error error => exact h.untouched (untouched_of_error ends)
    | ok handle =>
      obtain ⟨outliner, found, resolved, made⟩ := opened_of_ok ends
      rw [rule] at resolved
      have number : handle.presenter.index = a.workspace.presenters.size := by rw [made.handle]
      have new := Nat.le_of_eq number.symm
      refine ⟨made.refers h.refers resolved, fun {id grammar} has => ?_, fun id beyond => ?_⟩
      · dsimp only at has ⊢
        by_cases e : id = handle.presenter
        · subst e
          -- Its number was not in use, so nothing is on its account yet.
          obtain ⟨-, unasked, ungiven⟩ := h.new handle.presenter new
          rw [Function.update_self, WindowParts.ownGrammar?, rule] at has
          dsimp only at has
          rw [unasked, ungiven]
          cases foreign : resolver.owns (a.workspace.buffers.get parts.buffer).contentType with
          | true =>
            rw [foreign] at has
            cases has
          | false =>
            rw [foreign] at has
            exact made.hasOwn h.refers resolved foreign has
        · rw [Function.update_of_ne e] at has
          exact (h.own has).opened h.refers resolved made
      · have beyond : w'.presenters.size ≤ id.index := beyond
        rw [made.one] at beyond
        have ne : id ≠ handle.presenter := by
          rintro rfl
          rw [made.handle] at beyond
          exact absurd beyond (Nat.not_succ_le_self _)
        dsimp only
        rw [Function.update_of_ne ne]
        exact h.new id (Nat.le_of_succ_le beyond)

theorem Sound.step (h : a.Sound) (H : Host η) {operation : Operation η}
    (allowed : operation.IsByRule a.workspace) : (a.step H operation).Sound := by
  cases operation with
  | openWindow parts scope =>
    obtain ⟨resolver, rule⟩ := allowed
    exact h.openWindow H rule scope
  | window handle operation => exact h.window H allowed.1 allowed.2
  | session s operation => exact allowed.elim
  | outliner id operation => exact h.outliner H id allowed
  | host change => exact h.host H change

theorem Follows.sound {start : Workspace (Recorded η)} (run : Follows H start a)
    (refers : start.Refers) : a.Sound := by
  induction run with
  | start => exact ⟨refers, nofun, fun _ _ => ⟨rfl, rfl, rfl⟩⟩
  | step run operation allowed ih => exact ih.step H allowed

end Account

/-! ## No window hears of another -/

namespace Workspace.HasOwn

variable {w : Workspace (Recorded η)} {id : PresenterId} {grammar : Grammar}
  {asked : List Snapshot} {given : List Completion}

/-- No operation of another window has to do with the outliner. -/
theorem kept_by_window (h : w.HasOwn id grammar asked given) (H : Host η) {other : Handle}
    (known : w.Knows other) (ne : other.presenter ≠ id) (operation : WindowOperation) :
    ((operation.perform (H.recorded (some other.presenter)) other).after w).outliners.get
      (w.presenters.get id).outliner = w.outliners.get (w.presenters.get id).outliner := by
  let P (v : Workspace (Recorded η)) : Prop :=
    (∀ p, (v.presenters.get p).outliner = (w.presenters.get p).outliner) ∧
      v.outliners.get (w.presenters.get id).outliner =
        w.outliners.get (w.presenters.get id).outliner
  have strides : Strides H (some other.presenter) P := by
    refine ⟨fun {v p} operation mine ⟨same, kept⟩ => ⟨fun q => ?_, ?_⟩,
      fun {v v'} ⟨same, kept⟩ beside => ?_⟩
    · have fixed := (Desk.Stays.leaves H mine operation (v.desk p)).fixed
      rw [← same]
      exact v.presenters.map_get_set Presenter.outliner (outliner_of_fixed fixed) q
    · obtain rfl : other.presenter = p := mine.elim Option.some.inj nofun
      rw [← kept]
      refine Store.get_set_of_ne _ _ ?_
      rw [same]
      exact (h.alone _ known ne).symm
    · refine ⟨?_, ?_⟩
      · rw [beside.presenters]
        exact same
      · rw [beside.outliners]
        exact kept
  exact (strides.keeps_window (.inl rfl) operation w ⟨fun _ => rfl, rfl⟩).2

end Workspace.HasOwn

open Workspace

/-- A resolver answers alike however often it is asked: a buffer of an owned content type gets
the outliner that it brings, if it brings one, and every other buffer a service that is new and
that no earlier resolution made, if there is a grammar.  Nothing that was there is touched.  The
case of letters makes no difference, but an error shows the content type as it is spelled.

So in every run of windows that resolvers find outliners for, a window for which a service was
made is the only one with its outliner, and all completions that it took or that wait for it
answer its own requests, each of them once at most and in their order.  Whatever another window
does and whatever happens to another outliner, its own outliner stays as it is. -/
theorem resolution_isolates (H : Host η) (w : Workspace (Recorded η)) :
    (∀ requests : List (Resolver × BufferId), ∃ answers w',
      requests.mapM
          (fun request => resolveOutliner (H.recorded none) (.rule request.1) request.2) w =
        .ok answers w' ∧
      w.Untouched w' ∧ List.Forall₂ (Resolves w w') requests answers ∧
      (requests.zip answers).Pairwise fun first later =>
        ∀ outliner, first.2 = .ok outliner → later.2 = .ok outliner →
          SameUpToCase (w.buffers.get first.1.2).contentType first.1.1.language ∨
            SameUpToCase (w.buffers.get later.1.2).contentType later.1.1.language) ∧
    (∀ (r : Resolver) (contentType : String),
      r.owns contentType = true ↔ SameUpToCase contentType r.language) ∧
    (∀ (r r' : Resolver) (contentType contentType' : String) (installed : Option OutlinerId),
      SameUpToCase r.language r'.language → r'.grammar = r.grammar →
      SameUpToCase contentType contentType' →
        r'.resolve contentType' installed =
          (r.resolve contentType installed).mapError (·.about contentType')) ∧
    (w.Refers → ∀ a : Account η, Account.Follows H w a →
      ∀ id grammar, a.grammar id = some grammar →
        let own := (a.workspace.presenters.get id).outliner
        (∀ other, other.index < a.workspace.presenters.size → other ≠ id →
          (a.workspace.presenters.get other).outliner ≠ own) ∧
        grammar.Answers (a.asked id) (a.given id ++ (a.workspace.desk id).pending) ∧
        (∀ (h : Handle) (operation : WindowOperation), a.workspace.Knows h → h.presenter ≠ id →
          ((operation.perform (H.recorded (some h.presenter)) h).after
            a.workspace).outliners.get own = a.workspace.outliners.get own) ∧
        ∀ (outliner : OutlinerId) (operation : OutlinerOperation), outliner ≠ own →
          ((operation.perform outliner).after a.workspace).outliners.get own =
            a.workspace.outliners.get own) := by
  refine ⟨fun requests => resolves_each (H.recorded none) requests w,
    fun r contentType => Resolver.owns_iff,
    fun r r' contentType contentType' installed language grammar spelled =>
      Resolver.resolve_variant language grammar spelled installed,
    fun refers a run id grammar has => ?_⟩
  have mine := (run.sound refers).own has
  exact ⟨mine.alone, mine.answers,
    fun h operation known ne => mine.kept_by_window H known ne operation,
    fun outliner operation ne => Store.get_set_of_ne _ _ ne.symm⟩

/-- Two windows on one buffer, each with a service of its own.  Both ask for an outline, only
the service of the first one is run, and both take what waits for them. -/
theorem resolution_isolates_two_windows :
    let H := Host.plain (pure ())
    let w : Workspace (Recorded Snapshot) := {
      host := ⟨⟨1, "x"⟩, []⟩
      buffers := ⟨1, fun _ => { contentType := "b" }⟩ }
    ∃ (a : Account Snapshot) (grammar : Grammar), w.Refers ∧ Account.Follows H w a ∧
      a.grammar ⟨0⟩ = some grammar ∧ (a.grammar ⟨1⟩).isSome = true ∧
      (a.given ⟨0⟩).length = 1 ∧ a.asked ⟨1⟩ = [⟨1, "x"⟩] ∧ a.given ⟨1⟩ = [] ∧
      grammar.Answers (a.asked ⟨0⟩) (a.given ⟨0⟩ ++ (a.workspace.desk ⟨0⟩).pending) ∧
      (a.workspace.presenters.get ⟨1⟩).outliner ≠ (a.workspace.presenters.get ⟨0⟩).outliner := by
  intro H w
  let resolver : Resolver := ⟨"a", some fun _ => .ok (.empty 0 0)⟩
  let first : Handle := ⟨⟨1⟩, ⟨0⟩, ⟨0⟩⟩
  let second : Handle := ⟨⟨2⟩, ⟨0⟩, ⟨1⟩⟩
  let parts (window : WindowId) : WindowParts :=
    ⟨window, ⟨0⟩, ⟨0⟩, ⟨0⟩, ⟨0⟩, ⟨0⟩, ⟨0⟩, .rule resolver⟩
  have refers : w.Refers := ⟨fun id known => absurd known (Nat.not_lt_zero _), nofun⟩
  obtain ⟨a, run, made, told, known⟩ : ∃ a, Account.Follows H w a ∧
      ((a.grammar ⟨0⟩).isSome = true ∧ (a.grammar ⟨1⟩).isSome = true) ∧
      ((a.given ⟨0⟩).length = 1 ∧ a.asked ⟨1⟩ = [⟨1, "x"⟩] ∧ a.given ⟨1⟩ = []) ∧
      1 < a.workspace.presenters.size := by
    have run : Account.Follows H w { workspace := w } := .start
    have run := run.step (.openWindow (parts first.window) ⟨0⟩) ⟨resolver, rfl⟩
    have run := run.step (.openWindow (parts second.window) ⟨0⟩) ⟨resolver, rfl⟩
    have run := run.step (.window first .requestOutline) ⟨by decide +kernel, rfl⟩
    have run := run.step (.window second .requestOutline) ⟨by decide +kernel, rfl⟩
    have run := run.step (.outliner ⟨0⟩ (.loop .wake)) trivial
    have run := run.step (.outliner ⟨0⟩ (.loop .pick)) trivial
    have run := run.step (.outliner ⟨0⟩ (.loop .finish)) trivial
    have run := run.step (.window first .drain) ⟨by decide +kernel, rfl⟩
    have run := run.step (.window second .drain) ⟨by decide +kernel, rfl⟩
    exact ⟨_, run, by decide +kernel, by decide +kernel, by decide +kernel⟩
  obtain ⟨grammar, has⟩ := Option.isSome_iff_exists.mp made.1
  obtain ⟨alone, answers, -, -⟩ := (resolution_isolates H w).2.2.2 refers a run ⟨0⟩ grammar has
  exact ⟨a, grammar, refers, run, has, made.2, told.1, told.2.1, told.2.2, answers,
    alone ⟨1⟩ known nofun⟩

end OutlineBar
