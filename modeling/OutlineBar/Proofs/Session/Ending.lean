/-
The end of a session is complete.

Shutting a session down and dropping it close the registered windows and give up the idle
subscription.  `ending_complete` says that they do so for every state that can be reached, as
long as no call panics: no window is registered afterwards, every window that was has lost
its client, also if the host refuses to remove bars, and the calls to the host are exactly
those that this takes.  A session that was shut down goes out of hand without another call.

`AllLinked` is the invariant that a window and its buffer agree before and after that.
-/
import OutlineBar.Proofs.Session.FanOut
import OutlineBar.Proofs.Presenter.Outcome
import OutlineBar.Proofs.Workspace.Attachment
import OutlineBar.Proofs.Workspace.Lifecycle

namespace OutlineBar

open OutlineBar.Action

variable {η : Type} {H : Host η} {caller : Option PresenterId}

/-! ## Windows and buffers agree -/

namespace Workspace

/-- Whether every window has a buffer of its own. -/
def OwnBuffers (w : Workspace (Recorded η)) : Prop :=
  ∀ id other : PresenterId, id.index < w.presenters.size → other.index < w.presenters.size →
    (w.presenters.get other).buffer = (w.presenters.get id).buffer → other = id

/-- Whether every window agrees with its buffer on the attached client, unless one of its
clients panicked, and buffers without a window know of no client. -/
structure AllLinked (w : Workspace (Recorded η)) : Prop where
  settled : Settled w.host.log
  bare : ∀ buffer, (∀ id : PresenterId, id.index < w.presenters.size →
    (w.presenters.get id).buffer ≠ buffer) →
    (w.buffers.get buffer).bag.slot? .attachedBar = none
  guarded : ∀ id : PresenterId, id.index < w.presenters.size →
    ∃ bag, Guarded id (w.presenters.get id).fixed bag w.presenters.size w

namespace AllLinked

variable {w w' : Workspace (Recorded η)}

theorem aside {ξ : Type} {view : η → ξ} (h : w.AllLinked) (aside : Aside view caller w w') :
    w'.AllLinked where
  settled := aside.grows.settled h.settled
  bare := by
    rw [aside.presenters, aside.buffers]
    exact h.bare
  guarded id given := by
    rw [aside.presenters] at given ⊢
    obtain ⟨bag, guarded⟩ := h.guarded id given
    exact ⟨bag, guarded.aside aside⟩

theorem putDesk (h : w.AllLinked) {id : PresenterId} (given : id.index < w.presenters.size)
    {d : Desk (Recorded η)} (stays : Desk.Stays id caller (w.desk id) d) :
    (w.putDesk id d).AllLinked := by
  have fixed (other : PresenterId) :
      ((w.putDesk id d).presenters.get other).fixed = (w.presenters.get other).fixed :=
    w.presenters.map_get_set Presenter.fixed stays.fixed other
  refine ⟨stays.grows.settled h.settled, fun buffer unused => ?_, fun other opened => ?_⟩
  · have elsewhere : buffer ≠ (w.presenters.get id).buffer := fun same =>
      unused id given (same ▸ buffer_of_fixed (fixed id))
    have kept : (w.putDesk id d).buffers.get buffer = w.buffers.get buffer :=
      Store.get_set_of_ne _ _ elsewhere
    rw [kept]
    exact h.bare buffer fun other opened same =>
      unused other opened ((buffer_of_fixed (fixed other)).trans same)
  · obtain ⟨bag, guarded⟩ := h.guarded other opened
    rw [fixed other]
    exact ⟨bag, guarded.putDesk given stays⟩

/-- A new window on a buffer of its own. -/
theorem add (h : w.AllLinked) {parts : WindowParts} {p : Presenter} (new : p.IsNew parts)
    (unused : ∀ id : PresenterId, id.index < w.presenters.size →
      (w.presenters.get id).buffer ≠ p.buffer) :
    AllLinked { w with presenters := (w.presenters.add p).2 } := by
  have kept (id : PresenterId) (given : id.index < w.presenters.size) :
      (w.presenters.add p).2.get id = w.presenters.get id := Store.get_add_of_lt _ _ given
  refine ⟨h.settled, fun buffer free => ?_, fun id opened => ?_⟩
  · refine h.bare buffer fun id given => ?_
    have still := free id (Nat.lt_succ_of_lt given)
    dsimp only at still
    rwa [kept id given] at still
  · dsimp only
    rcases Store.eq_or_lt_of_lt_add _ p opened with rfl | old
    · rw [Store.get_add_self]
      exact ⟨_, .newest new h.settled unused (h.bare p.buffer unused)⟩
    · obtain ⟨bag, guarded⟩ := h.guarded id old
      rw [kept id old]
      exact ⟨bag, guarded.add (unused id old).symm⟩

end AllLinked

/-- Windows on buffers of their own agree with them, whatever is done. -/
theorem upheld_allLinked (H : Host η) :
    Upheld H (fun _ => ()) (fun _ => True) (fun _ _ => True)
      (fun w => w.OwnBuffers → w.AllLinked) where
  overlooks := H.overlooks_nothing
  aside {caller w w'} aside h own := by
    refine (h ?_).aside aside
    unfold OwnBuffers at own
    rwa [aside.presenters] at own
  desk {w id caller} operation mine given h own := by
    have stays := Desk.Stays.leaves H mine operation (w.desk id)
    have buffer (other : PresenterId) :
        ((w.putDesk id (operation.leaves (H.recorded caller) (w.desk id))).presenters.get
          other).buffer = (w.presenters.get other).buffer :=
      w.presenters.map_get_set Presenter.buffer (buffer_of_fixed stays.fixed) other
    refine (h fun one other opened opened' same => ?_).putDesk given stays
    exact own one other opened opened' ((buffer other).trans (same.trans (buffer one).symm))
  opened {w parts p} _ new h own := by
    have kept (id : PresenterId) (given : id.index < w.presenters.size) :
        (w.presenters.add p).2.get id = w.presenters.get id := Store.get_add_of_lt _ _ given
    have older : w.OwnBuffers := fun id other given given' same =>
      own id other (Nat.lt_succ_of_lt given) (Nat.lt_succ_of_lt given') (by
        dsimp only
        rwa [kept id given, kept other given'])
    refine (h older).add new fun id given same => ?_
    have newest : (w.presenters.add p).2.get (w.presenters.add p).1 = p := Store.get_add_self _ _
    have clash := own (w.presenters.add p).1 id (Nat.lt_succ_self _) (Nat.lt_succ_of_lt given) (by
      dsimp only
      rw [kept id given, newest]
      exact same)
    exact Nat.lt_irrefl _ (clash ▸ given)
  changed _ h own :=
    have linked := h own
    ⟨linked.settled, linked.bare, fun id given =>
      have ⟨bag, guarded⟩ := linked.guarded id given
      ⟨bag, guarded.changed _⟩⟩

end Workspace

/-! ## Closing windows -/

/-- The calls that it takes to detach a presenter. -/
def Presenter.closing (p : Presenter) : List HostCall :=
  match p.client with
  | none => []
  | some client => [.unregisterClient client, .removeBar p.bars]

/-- Detaching returns unless one of its calls panics, and makes no calls but those it takes. -/
theorem Desk.detach_of_calm {d : Desk (Recorded η)}
    (calm : Calm ((Desk.detach (H.recorded caller)).after d).host.log) :
    ∃ status d', Desk.detach (H.recorded caller) d = .ok status d' ∧
      callsIn d'.host.log = callsIn d.host.log ++ d.presenter.closing := by
  have e := detach_eq (H.recorded caller) d
  -- The call that panics is the last one.
  have panics {p : Panic} {call : HostCall} {s s' : Recorded η}
      (panicked : (H.recorded caller).answer call s = .error p s') (calm : Calm s'.log) :
      False := by
    have returned := calm _ ((Host.recorded_error panicked).2 ▸
      List.mem_append_right _ List.mem_cons_self)
    cases returned
  cases attached : d.presenter.client with
  | none =>
    rw [attached] at e
    refine ⟨_, d, e, ?_⟩
    rw [Presenter.closing, attached, List.append_nil]
  | some client =>
    rw [attached] at e
    dsimp only at e
    cases told : (H.recorded caller).unregisterClient client d.host with
    | error p host =>
      rw [told] at e
      rw [after_of_error e] at calm
      exact (panics told calm).elim
    | ok _ host =>
      rw [told] at e
      dsimp only at e
      cases removed : (H.recorded caller).removeBar d.presenter.bars host with
      | error p host' =>
        rw [removed] at e
        rw [after_of_error e] at calm
        exact (panics removed calm).elim
      | ok status host' =>
        rw [removed] at e
        refine ⟨status, _, e, ?_⟩
        rw [Presenter.closing, attached]
        show callsIn host'.log = _
        rw [(Host.calls_ok removed).callsIn, (Host.calls_ok told).callsIn, List.append_assoc]
        rfl

/-- The log of the host only grows, whatever a session does. -/
theorem Workspace.stable_extends (log : List (HostRecord η)) :
    Stable (H.recorded none) (fun _ => True) (fun _ _ => True)
      (fun w : Workspace (Recorded η) => Extends none log w.host.log) where
  note _ grown := grown
  wake _ grown := grown
  call {w call} _ grown := by
    obtain ⟨outcome, called⟩ := H.exists_calls none call w.host
    exact grown.trans called.extends
  desk {w id operation} _ grown := by
    have stays := Desk.Stays.leaves H (.inr rfl : id.Allows none) operation (w.desk id)
    exact grown.trans stays.grows.grown

namespace Handle

open Workspace

variable {h : Handle} {w w' : Workspace (Recorded η)}

/-- What detaching a window at the end of its session comes to if no call panics. -/
theorem leave_of_calm (calm : Calm ((h.leave (H.recorded none)).after w).host.log) :
    ∃ attempt w', h.leave (H.recorded none) w = .ok attempt w' ∧
      (w'.presenterOf h).client = none ∧
      (∀ id, id ≠ h.presenter → w'.presenters.get id = w.presenters.get id) ∧
      callsIn w'.host.log = callsIn w.host.log ++ (w.presenterOf h).closing := by
  have reached : ((h.leave (H.recorded none)).after w).host =
      ((Desk.detach (H.recorded none)).after (w.desk h.presenter)).host := by
    unfold after leave attempt Handle.detach onDesk
    rw [bind_apply, zoom_apply]
    cases Desk.detach (H.recorded none) (w.desk h.presenter) with
    | error p d => rfl
    | ok status d => cases status <;> rfl
  rw [reached] at calm
  obtain ⟨status, d, detached, calls⟩ := Desk.detach_of_calm calm
  have none := Desk.client_after_detach (H.recorded .none) (w.desk h.presenter)
  rw [after_of_ok detached] at none
  have first : h.detach (H.recorded .none) w = .ok status (w.putDesk h.presenter d) :=
    onDesk_of_ok detached
  have own : (w.putDesk h.presenter d).presenterOf h = d.presenter := Store.get_set_self _ _ _
  have gone : ((w.putDesk h.presenter d).presenterOf h).client = .none := own.symm ▸ none
  have elsewhere (id : PresenterId) (ne : id ≠ h.presenter) :
      (w.putDesk h.presenter d).presenters.get id = w.presenters.get id :=
    Store.get_set_of_ne _ _ ne
  cases status with
  | ok _ => exact ⟨_, _, (bind_of_ok first _).trans rfl, gone, elsewhere, calls⟩
  | error failure => exact ⟨_, _, (bind_of_ok first _).trans rfl, gone, elsewhere, calls⟩

end Handle

/-- An item for which nothing is to be done may as well be left out. -/
theorem flatMap_eraseDups_filter {α β : Type} [DecidableEq α] {f : α → List β} {a : α}
    (nothing : f a = []) (items : List α) :
    (items.filter (· != a)).eraseDups.flatMap f = items.eraseDups.flatMap f := by
  cases items with
  | nil => rfl
  | cons b rest =>
    by_cases same : b = a
    · subst same
      simp only [List.filter_cons, bne_self_eq_false, Bool.false_eq_true, if_false,
        List.eraseDups_cons, List.flatMap_cons, nothing, List.nil_append]
      rfl
    · have swapped : (rest.filter (· != a)).filter (fun c => !c == b) =
          (rest.filter fun c => !c == b).filter (· != a) := by
        rw [List.filter_filter, List.filter_filter]
        congr 1
        funext c
        exact Bool.and_comm _ _
      have later := flatMap_eraseDups_filter nothing (rest.filter fun c => !c == b)
      simp only [List.filter_cons, bne_iff_ne, ne_eq, same, not_false_eq_true, if_true,
        List.eraseDups_cons, List.flatMap_cons, swapped, later]
termination_by items.length
decreasing_by
  have := List.length_filter_le (fun c => !c == b) rest
  simp only [List.length_cons]
  omega

/-- What closing windows comes to if no call panics. -/
theorem leaveAll_of_calm {handles : List Handle} {w : Workspace (Recorded η)}
    (calm : Calm ((handles.mapM (Handle.leave (H.recorded none))).after w).host.log) :
    ∃ attempts w', handles.mapM (Handle.leave (H.recorded none)) w = .ok attempts w' ∧
      (∀ h ∈ handles, (w'.presenterOf h).client = none) ∧
      (∀ id, (w.presenters.get id).client = none → (w'.presenters.get id).client = none) ∧
      callsIn w'.host.log = callsIn w.host.log ++
        (handles.map Handle.presenter).eraseDups.flatMap fun id =>
          (w.presenters.get id).closing := by
  induction handles generalizing w with
  | nil => exact ⟨[], w, rfl, nofun, fun _ none => none, (List.append_nil _).symm⟩
  | cons h rest ih =>
    rw [List.mapM_cons] at calm
    -- The log only grows, so if the first window panicked the log would tell.
    have calmFirst : Calm ((h.leave (H.recorded none)).after w).host.log := by
      let P (w' : Workspace (Recorded η)) : Prop :=
        Extends none ((h.leave (H.recorded none)).after w).host.log w'.host.log
      have others : Keeps P (rest.mapM (Handle.leave (H.recorded none))) :=
        Keeps.mapM fun k _ => (Workspace.stable_extends _).keeps_leave trivial
      refine calm.of_extends (?_ : Extends none _ _)
      exact Keeps.after_bind (P := P) (.refl _) fun _ w₁ _ grown =>
        Keeps.bind others (fun _ => Keeps.pure _) w₁ grown
    obtain ⟨attempt, w₁, left, gone, elsewhere, calls⟩ := Handle.leave_of_calm calmFirst
    have calmRest : Calm ((rest.mapM (Handle.leave (H.recorded none))).after w₁).host.log := by
      have same : ((do
          let a ← h.leave (H.recorded none)
          let more ← rest.mapM (Handle.leave (H.recorded none))
          pure (a :: more)) : Action _ _).after w =
          (rest.mapM (Handle.leave (H.recorded none))).after w₁ := by
        unfold after
        rw [bind_of_ok left, bind_apply]
        cases rest.mapM (Handle.leave (H.recorded none)) w₁ <;> rfl
      exact same ▸ calm
    obtain ⟨attempts, w', others, allGone, stillGone, more⟩ := ih calmRest
    refine ⟨attempt :: attempts, w', mapM_cons_of_ok left others, ?_, ?_, ?_⟩
    · intro k mem
      rcases List.mem_cons.mp mem with rfl | mem
      · exact stillGone _ gone
      · exact allGone k mem
    · intro id none
      refine stillGone id ?_
      by_cases same : id = h.presenter
      · exact same ▸ gone
      · rw [elsewhere id same]
        exact none
    · have nothing : (w₁.presenters.get h.presenter).closing = [] := by
        have gone : (w₁.presenters.get h.presenter).client = none := gone
        rw [Presenter.closing, gone]
      -- So the window may as well be left out of the others.
      have skipped : (rest.map Handle.presenter).eraseDups.flatMap
            (fun id => (w₁.presenters.get id).closing) =
          ((rest.map Handle.presenter).filter (· != h.presenter)).eraseDups.flatMap
            fun id => (w.presenters.get id).closing := by
        rw [← flatMap_eraseDups_filter (a := h.presenter) nothing]
        refine List.flatMap_congr fun id mem => ?_
        have ne : id ≠ h.presenter := by
          simpa using (List.mem_filter.mp (List.mem_eraseDups.mp mem)).2
        rw [elsewhere id ne]
      rw [more, calls, skipped, List.append_assoc, List.map_cons, List.eraseDups_cons,
        List.flatMap_cons]
      rfl

/-! ## Ending a session -/

theorem Calm.returned {r : HostRecord η} {log : List (HostRecord η)} (calm : Calm (log ++ [r])) :
    r.returned = true := calm r (List.mem_append_right _ List.mem_cons_self)

theorem Calm.not_wasCut {id : PresenterId} {p : Presenter} {log : List (HostRecord η)}
    (calm : Calm log) : ¬ WasCut id p log := by
  rintro ⟨client, -, past, caller, before, panic, future, -, rfl, -⟩
  have returned := calm _ (List.mem_append_right past List.mem_cons_self)
  cases returned

namespace Session

open Workspace

variable {s : Session} {w w' : Workspace (Recorded η)}

/-- Closing the windows comes first, so a log that is calm after the end was calm then. -/
theorem calm_closeWindows (calm : Calm ((s.drop (H.recorded none)).after w).host.log) :
    Calm ((s.closeWindows (H.recorded none)).after w).host.log := by
  have grown := (stable_extends (H := H) ((s.closeWindows (H.recorded none)).after w).host.log)
    |>.after_drop (s := s) (fun _ _ => trivial) (.refl _)
  exact calm.of_extends grown

/-- What ending a session comes to if no call panics. -/
theorem end_of_calm {subscription : SubscriptionId}
    (subscribed : s.idle.subscription = some subscription)
    (calm : Calm ((s.drop (H.recorded none)).after w).host.log) :
    ∃ w', s.shutdown (H.recorded none) w = .ok (w.listed s).length w' ∧
      s.drop (H.recorded none) w = .ok () w' ∧ w'.listed s = [] ∧
      (∀ h ∈ w.listed s, (w'.presenterOf h).client = none) ∧
      callsIn w'.host.log = callsIn w.host.log ++
        (((w.listed s).map Handle.presenter).eraseDups.flatMap fun id =>
          (w.presenters.get id).closing) ++ [.unsubscribeIdle s.idle.idleHost subscription] := by
  have calmClose := calm_closeWindows calm
  have e := closeWindows_eq (H.recorded none) s w
  have calmLeave : Calm (((w.listed s).mapM (Handle.leave (H.recorded none))).after
      (w.emptied s.scope)).host.log := by
    unfold after at calmClose ⊢
    rw [e, bind_apply] at calmClose
    cases left : (w.listed s).mapM (Handle.leave (H.recorded none)) (w.emptied s.scope) with
    | ok attempts w₁ =>
      rw [left] at calmClose
      exact calmClose
    | error p w₁ =>
      rw [left] at calmClose
      exact calmClose
  obtain ⟨attempts, w₁, left, gone, -, calls⟩ := leaveAll_of_calm calmLeave
  have closed : s.closeWindows (H.recorded none) w = .ok (w.listed s).length w₁ :=
    e.trans (bind_of_ok left _)
  have empty : w₁.listed s = [] := by
    rw [← after_of_ok left]
    have kept : Keeps (fun w₁ : Workspace (Recorded η) => w₁.listed s = [])
        ((w.listed s).mapM (Handle.leave (H.recorded none))) :=
      Keeps.mapM fun h _ => Handle.keeps_leave (fun _ _ same => same) fun _ same => same
    exact kept _ (listed_emptied w s)
  have unsubscribed := uninstall_eq (H.recorded none) w₁ s.idle
  rw [subscribed] at unsubscribed
  dsimp only at unsubscribed
  cases told : (H.recorded none).unsubscribeIdle s.idle.idleHost subscription w₁.host with
  | error p host =>
    -- Then the last call of the log would have panicked.
    rw [told] at unsubscribed
    have dropped : s.drop (H.recorded none) w = .error p { w₁ with host } := by
      have passed := onPanic_of_ok closed (s.abandon (H.recorded none))
      exact (bind_of_ok passed _).trans (bind_of_error (bind_of_error unsubscribed _) _)
    rw [after_of_error dropped] at calm
    have returned := Calm.returned ((Host.recorded_error told).2 ▸ calm)
    cases returned
  | ok _ host =>
    rw [told] at unsubscribed
    obtain ⟨shut, dropped⟩ := end_of_closed closed unsubscribed
    refine ⟨_, shut, dropped, empty, gone, ?_⟩
    exact (Host.calls_ok told).callsIn.trans (congrArg (· ++ [_]) calls)

end Session

namespace Workspace

variable {start w w' : Workspace (Recorded η)}

/-- Whether the windows of two workspaces are the same but for clients and views. -/
structure SameOpened (start w : Workspace (Recorded η)) : Prop where
  size : w.presenters.size = start.presenters.size
  fixed : ∀ id, (w.presenters.get id).fixed = (start.presenters.get id).fixed

/-- Only opening a window changes which windows there are. -/
theorem upheld_sameOpened (H : Host η) (start : Workspace (Recorded η)) :
    Upheld H (fun _ => ()) (fun _ => False) (fun _ _ => True) (SameOpened start) where
  overlooks := H.overlooks_nothing
  aside aside h := by
    constructor <;> rw [aside.presenters]
    · exact h.size
    · exact h.fixed
  desk {w id caller} operation mine _ h := by
    refine ⟨h.size, fun other => ?_⟩
    have stays := Desk.Stays.leaves H mine operation (w.desk id)
    exact (w.presenters.map_get_set Presenter.fixed stays.fixed other).trans (h.fixed other)
  opened impossible := impossible.elim
  changed _ h := ⟨h.size, h.fixed⟩

theorem SameOpened.ownBuffers (h : SameOpened start w) (own : start.OwnBuffers) :
    w.OwnBuffers := by
  intro id other given given' same
  rw [h.size] at given given'
  rw [buffer_of_fixed (h.fixed id), buffer_of_fixed (h.fixed other)] at same
  exact own id other given given' same

/-- A window without a client is detached altogether. -/
theorem AllLinked.detached (h : w.AllLinked) (calm : Calm w.host.log) {id : PresenterId}
    (given : id.index < w.presenters.size) (none : (w.presenters.get id).client = none) :
    (w.presenters.get id).shown = .none ∧
      (w.buffers.get (w.presenters.get id).buffer).bag.contains .attachedBar = false := by
  obtain ⟨bag, guarded⟩ := h.guarded id given
  rcases guarded.linked with cut | linked
  · exact absurd cut calm.not_wasCut
  · have shown : (w.presenters.get id).shown.isSome = (w.presenters.get id).client.isSome :=
      linked.shown
    have property : (w.buffers.get (w.presenters.get id).buffer).bag.slot? .attachedBar =
      (w.presenters.get id).client.map (Tagged.mk .attachedBar) := linked.property
    rw [none] at shown property
    refine ⟨by simpa using shown, ?_⟩
    unfold Bag.contains
    rw [property]
    rfl

end Workspace

/-- Take any state that can be reached from a workspace without windows, in which no two
windows share a buffer, and a session that was not ended.  If no call panics until the session
is ended, then shutting it down and dropping it lead to the same state.  Shutting down answers
how many windows were registered.  None is afterwards.  Each of them is detached, whatever the
host answered, and its client was told to unregister.  The calls made are those that it takes
to detach the registered windows, each window once, and the one that gives up the
subscription. -/
theorem ending_complete (H : Host η) {start w : Workspace (Recorded η)} {s : Session}
    {subscription : SubscriptionId} (silent : start.host.log = [])
    (unopened : start.presenters.size = 0)
    (bare : ∀ buffer, (start.buffers.get buffer).bag.contains .attachedBar = false)
    (reached : Reaches H (fun w operation => ∀ h ∈ operation.handles w, w.Knows h) start w)
    (own : w.OwnBuffers) (known : ∀ h ∈ w.listed s, w.Knows h)
    (subscribed : s.idle.subscription = some subscription)
    (calm : Calm ((s.drop (H.recorded none)).after w).host.log) :
    ∃ w', s.shutdown (H.recorded none) w = .ok (w.listed s).length w' ∧
      s.drop (H.recorded none) w = .ok () w' ∧
      w'.listed s = [] ∧
      (∀ h ∈ w.listed s, (w'.presenterOf h).client = none ∧ (w'.presenterOf h).shown = none ∧
        (w'.buffers.get (w.presenterOf h).buffer).bag.contains .attachedBar = false ∧
        ∀ client, (w.presenterOf h).client = some client →
          .unregisterClient client ∈ callsIn w'.host.log) ∧
      callsIn w'.host.log = callsIn w.host.log ++
        (((w.listed s).map Handle.presenter).eraseDups.flatMap fun id =>
          (w.presenters.get id).closing) ++ [.unsubscribeIdle s.idle.idleHost subscription] := by
  have linked : w.AllLinked := by
    refine reached.invariant (P := fun w => w.OwnBuffers → w.AllLinked) (fun _ => ?_) ?_ own
    · refine ⟨silent ▸ fun _ _ last => (nomatch last), fun buffer _ => ?_, fun id given => ?_⟩
      · have none := bare buffer
        unfold Bag.contains at none
        simpa using none
      · omega
    · exact fun w operation before given => (Workspace.upheld_allLinked H).perform given
        (fun _ _ _ => trivial) (fun _ _ => trivial) before
  obtain ⟨w', shut, dropped, empty, gone, calls⟩ := Session.end_of_calm subscribed calm
  have after : (s.drop (H.recorded none)).after w = w' := after_of_ok dropped
  have same : Workspace.SameOpened w w' :=
    after ▸ (Workspace.upheld_sameOpened H w).session ⟨rfl, fun _ => rfl⟩ known .drop
  have linked' : w'.AllLinked :=
    (after ▸ (Workspace.upheld_allLinked H).session (fun _ => linked) known .drop :
      w'.OwnBuffers → w'.AllLinked) (same.ownBuffers own)
  refine ⟨w', shut, dropped, empty, fun h mem => ?_, calls⟩
  have detached := linked'.detached (after ▸ calm) (same.size ▸ known h mem) (gone h mem)
  have buffer : (w'.presenters.get h.presenter).buffer = (w.presenterOf h).buffer :=
    buffer_of_fixed (same.fixed h.presenter)
  rw [buffer] at detached
  refine ⟨gone h mem, detached.1, detached.2, fun client attached => ?_⟩
  rw [calls]
  refine List.mem_append_left _ (List.mem_append_right _ ?_)
  rw [List.mem_flatMap]
  refine ⟨h.presenter, List.mem_eraseDups.mpr (List.mem_map_of_mem mem), ?_⟩
  have attached : (w.presenters.get h.presenter).client = some client := attached
  rw [Presenter.closing, attached]
  exact List.mem_cons_self

instance {log : List (HostRecord η)} : Decidable (Calm log) :=
  inferInstanceAs (Decidable (∀ r ∈ log, r.returned = true))

/-- Two windows are attached, and the host does not remove their bars. -/
theorem ending_complete_without_removal :
    let H := Host.slotted fun _ => false
    let s : Session := ⟨⟨0⟩, ⟨⟨⟨0⟩, none⟩, ⟨0⟩, some ⟨0⟩⟩⟩
    ∃ w w' : Workspace (Recorded Slotted),
      s.shutdown (H.recorded none) w = .ok 2 w' ∧ s.drop (H.recorded none) w = .ok () w' ∧
      (callsIn w'.host.log).drop (callsIn w.host.log).length =
        [.unregisterClient (.made ⟨0⟩ 0), .removeBar ⟨0⟩,
          .unregisterClient (.made ⟨1⟩ 1), .removeBar ⟨1⟩, .unsubscribeIdle ⟨0⟩ ⟨0⟩] := by
  intro H s
  let parts (n : Nat) : WindowParts := ⟨⟨n⟩, ⟨n⟩, ⟨n⟩, ⟨n⟩, ⟨n⟩, ⟨n⟩, ⟨n⟩, .host ⟨0⟩⟩
  let h (n : Nat) : Handle := ⟨⟨n⟩, ⟨0⟩, ⟨n⟩⟩
  let start : Workspace (Recorded Slotted) := { host := ⟨{}, []⟩ }
  let allows (w : Workspace (Recorded Slotted)) (operation : Operation Slotted) : Prop :=
    ∀ h ∈ operation.handles w, w.Knows h
  have reached : Reaches H allows start start := .start
  have reached := reached.step (.openWindow (parts 0) ⟨0⟩) (by decide +kernel)
  have reached := reached.step (.openWindow (parts 1) ⟨0⟩) (by decide +kernel)
  have reached := reached.step (.window (h 0) .adorn) (by decide +kernel)
  have reached := reached.step (.window (h 1) .adorn) (by decide +kernel)
  -- From here on only these facts about the state matter.
  obtain ⟨w, reached, windows, buffers, known, calm, two, ids, first, second⟩ :
      ∃ w, Reaches H allows start w ∧ w.presenters.size = 2 ∧
        (w.presenters.get ⟨0⟩).buffer ≠ (w.presenters.get ⟨1⟩).buffer ∧
        (∀ h ∈ w.listed s, w.Knows h) ∧ Calm ((s.drop (H.recorded none)).after w).host.log ∧
        (w.listed s).length = 2 ∧
        ((w.listed s).map Handle.presenter).eraseDups = [⟨0⟩, ⟨1⟩] ∧
        ((w.presenters.get ⟨0⟩).client = some (.made ⟨0⟩ 0) ∧ (w.presenters.get ⟨0⟩).bars = ⟨0⟩) ∧
        (w.presenters.get ⟨1⟩).client = some (.made ⟨1⟩ 1) ∧ (w.presenters.get ⟨1⟩).bars = ⟨1⟩ :=
    ⟨_, reached, by decide +kernel, by decide +kernel, by decide +kernel, by decide +kernel,
      by decide +kernel, by decide +kernel, by decide +kernel, by decide +kernel⟩
  have own : w.OwnBuffers := by
    intro ⟨i⟩ ⟨j⟩ given given' same
    rw [windows] at given given'
    have hi : i = 0 ∨ i = 1 := Nat.le_one_iff_eq_zero_or_eq_one.mp (Nat.le_of_lt_succ given)
    have hj : j = 0 ∨ j = 1 := Nat.le_one_iff_eq_zero_or_eq_one.mp (Nat.le_of_lt_succ given')
    rcases hi with rfl | rfl <;> rcases hj with rfl | rfl
    · rfl
    · exact absurd same.symm buffers
    · exact absurd same buffers
    · rfl
  obtain ⟨w', shut, dropped, -, -, calls⟩ :=
    ending_complete H rfl rfl (fun _ => rfl) reached own known rfl calm
  refine ⟨w, w', two ▸ shut, dropped, ?_⟩
  rw [calls, List.append_assoc, List.drop_left, ids]
  simp [Presenter.closing, first, second, s]

end OutlineBar
