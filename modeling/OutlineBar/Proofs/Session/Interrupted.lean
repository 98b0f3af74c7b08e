/-
A window that panics costs the others.

Turning all bars on or off and ending a session go through the registered windows one by
one, and nothing catches a panic on the way.  `panic_ends_fan_out` says what a panic leaves
behind: the windows before the one that panicked were seen to, that one has no client, and
those after it are as they were.  At the end of a session they are not even registered any
more.  `panic_costs_others` is a session in which a window keeps its bar for this reason.
-/
import OutlineBar.Proofs.Host.Slotted
import OutlineBar.Proofs.Presenter.Outcome
import OutlineBar.Proofs.Session.FanOut

namespace OutlineBar

open OutlineBar.Action

variable {η : Type} {H : Host η} {s : Session} {w w' : Workspace η}

/-- Whether a fan-out over some handles led from `start` to `w` because a window panicked in
its turn. -/
def Interrupted (act : Handle → Action (Workspace η) (Handle × HostStatus)) (handles : List Handle)
    (start : Workspace η) (p : Panic) (w : Workspace η) : Prop :=
  ∃ before h after attempts reached left, handles = before ++ h :: after ∧
    before.mapM act start = .ok attempts reached ∧ act h reached = .error p left ∧
    (w.presenters = left.presenters ∧ w.buffers = left.buffers) ∧
    (w.presenterOf h).client = none ∧
    (∀ k ∈ before, w.presenterOf k = reached.presenterOf k) ∧
    ∀ k ∈ after, w.presenterOf k = start.presenterOf k

/-! ## One window -/

namespace Handle

open Workspace

variable {h : Handle} {p : Panic}

/-- A window that panics has no client. -/
theorem client_of_toggle_error {enabled : Bool} (panicked : h.toggle H enabled w = .error p w') :
    (w'.presenterOf h).client = none := by
  have tried : (if enabled then h.attach H else h.detach H) w = .error p w' := by
    rcases bind_eq_error panicked with first | ⟨status, w₁, -, rest⟩
    · exact first
    · cases status <;> cases rest
  have own (d : Desk η) : ((w.putDesk h.presenter d).presenterOf h) = d.presenter :=
    Store.get_set_self _ _ _
  cases enabled with
  | false =>
    have detached : (h.detach H).after w = w' := after_of_error tried
    rw [← detached, Handle.detach, onDesk, after_zoom, own]
    exact Desk.client_after_detach H _
  | true =>
    have settles := Desk.settles_attach H (w.desk h.presenter)
    have attached : onDesk h.presenter (Desk.attach H) w = .error p w' := tried
    rw [onDesk, zoom_apply] at attached
    cases result : Desk.attach H (w.desk h.presenter) with
    | ok status d =>
      rw [result] at attached
      cases attached
    | error p' d =>
      rw [result] at attached settles
      cases attached
      rw [own]
      exact settles

theorem client_of_leave_error (panicked : h.leave H w = .error p w') :
    (w'.presenterOf h).client = none := by
  have panicked : h.toggle H false w = .error p w' := by
    rcases bind_eq_error panicked with first | ⟨status, w₁, -, rest⟩
    · exact bind_of_error first _
    · cases status <;> cases rest
  exact client_of_toggle_error panicked

end Handle

/-! ## All windows -/

/-- What is known when visits of windows on presenters of their own end in a panic. -/
theorem interrupted_mapM {act : Handle → Action (Workspace η) (Handle × HostStatus)}
    {handles : List Handle} {p : Panic}
    (apart : handles.Pairwise fun h k => h.presenter ≠ k.presenter)
    (elsewhere : ∀ (h k : Handle) (q : Presenter), k.presenter ≠ h.presenter →
      Keeps (fun w : Workspace η => w.presenterOf k = q) (act h))
    (fails : ∀ {h w p w'}, act h w = .error p w' → (w'.presenterOf h).client = none)
    (panicked : handles.mapM act w = .error p w') : Interrupted act handles w p w' := by
  obtain ⟨before, h, after, attempts, reached, split, done, stopped⟩ := mapM_eq_error panicked
  rw [split, List.pairwise_append, List.pairwise_cons] at apart
  obtain ⟨-, ⟨later, -⟩, earlier⟩ := apart
  refine ⟨before, h, after, attempts, reached, w', split, done, stopped, ⟨rfl, rfl⟩, fails stopped,
    fun k mem => ?_, fun k mem => ?_⟩
  · have ne : k.presenter ≠ h.presenter := earlier k mem h List.mem_cons_self
    rw [← after_of_error stopped]
    exact elsewhere h k _ ne reached rfl
  · have untouched : reached.presenterOf k = w.presenterOf k := by
      rw [← after_of_ok done]
      refine Keeps.mapM (P := fun w' => w'.presenterOf k = w.presenterOf k) ?_ w rfl
      intro item given
      exact elsewhere item k _ (earlier item given k (List.mem_cons_of_mem _ mem)).symm
    rw [← untouched, ← after_of_error stopped]
    exact elsewhere h k _ (later k mem).symm reached rfl

/-- A change of neither presenters nor buffers after a fan-out. -/
theorem Interrupted.mono {act : Handle → Action (Workspace η) (Handle × HostStatus)}
    {handles : List Handle} {start : Workspace η} {p : Panic}
    (h : Interrupted act handles start p w) (presenters : w'.presenters = w.presenters)
    (buffers : w'.buffers = w.buffers) : Interrupted act handles start p w' := by
  obtain ⟨before, k, after, attempts, reached, left, split, done, stopped, same, gone, earlier,
    later⟩ := h
  have kept (k : Handle) : w'.presenterOf k = w.presenterOf k := by
    unfold Workspace.presenterOf
    rw [presenters]
  refine ⟨before, k, after, attempts, reached, left, split, done, stopped,
    ⟨presenters.trans same.1, buffers.trans same.2⟩, ?_, fun k mem => ?_, fun k mem => ?_⟩
  · rw [kept]
    exact gone
  · rw [kept]
    exact earlier k mem
  · rw [kept]
    exact later k mem

theorem keeps_elsewhere {h k : Handle} (ne : k.presenter ≠ h.presenter) (q : Presenter)
    (w : Workspace η) (d : Desk η) (same : w.presenterOf k = q) :
    (w.putDesk h.presenter d).presenterOf k = q :=
  (Store.get_set_of_ne _ _ ne).trans same

namespace Session

open Workspace

theorem interrupted_setEnabled
    (apart : (w.listed s).Pairwise fun h k => h.presenter ≠ k.presenter) {enabled : Bool}
    {p : Panic} (panicked : s.setEnabled H enabled w = .error p w') :
    Interrupted (Handle.toggle H enabled) (w.listed s) (w.switched s.scope enabled) p w' := by
  rw [setEnabled_eq] at panicked
  refine interrupted_mapM apart (fun h k q ne => ?_) Handle.client_of_toggle_error ?_
  · exact Handle.keeps_toggle (keeps_elsewhere ne q) (fun _ same => same) enabled
  · rcases bind_eq_error panicked with first | ⟨attempts, w₁, -, rest⟩
    · exact first
    · cases rest

theorem interrupted_closeWindows
    (apart : (w.listed s).Pairwise fun h k => h.presenter ≠ k.presenter) {p : Panic}
    (panicked : s.closeWindows H w = .error p w') :
    Interrupted (Handle.leave H) (w.listed s) (w.emptied s.scope) p w' := by
  rw [closeWindows_eq] at panicked
  refine interrupted_mapM apart (fun h k q ne => ?_) Handle.client_of_leave_error ?_
  · exact Handle.keeps_leave (keeps_elsewhere ne q) fun _ same => same
  · rcases bind_eq_error panicked with first | ⟨attempts, w₁, -, rest⟩
    · exact first
    · cases rest

/-! ### The end of a session -/

/-- No window is registered while the windows are closed. -/
theorem listed_of_closeWindows_error {p : Panic} (panicked : s.closeWindows H w = .error p w') :
    w'.listed s = [] := by
  have kept : Keeps (fun w' => w'.listed s = []) ((w.listed s).mapM (Handle.leave H)) :=
    Keeps.mapM fun h _ => Handle.keeps_leave (fun _ _ same => same) fun _ same => same
  rw [closeWindows_eq] at panicked
  rcases bind_eq_error panicked with first | ⟨attempts, w₁, -, rest⟩
  · exact after_of_error first ▸ kept _ (listed_emptied w s)
  · cases rest

/-- Whether two workspaces have the same windows, buffers and rosters. -/
structure SameWindows (w w' : Workspace η) : Prop where
  presenters : w'.presenters = w.presenters
  buffers : w'.buffers = w.buffers
  listed : w'.listed s = w.listed s

variable (quiet : ∀ idleHost subscription host, ∃ host',
  H.unsubscribeIdle idleHost subscription host = .ok () host')
include quiet

theorem uninstall_returns (c : IdleCoordinator) (w : Workspace η) :
    ∃ idle w', c.uninstall H w = .ok idle w' ∧ SameWindows (s := s) w w' := by
  have e := uninstall_eq H w c
  cases installed : c.subscription with
  | none =>
    rw [installed] at e
    exact ⟨_, _, e, rfl, rfl, rfl⟩
  | some subscription =>
    obtain ⟨host, gone⟩ := quiet c.idleHost subscription w.host
    rw [installed] at e
    dsimp only at e
    rw [gone] at e
    exact ⟨_, _, e, rfl, rfl, rfl⟩

/-- After its windows were taken out of the roster, letting a session go changes nothing
about windows. -/
theorem letGo_emptied (empty : w.listed s = []) :
    ∃ w', s.letGo H w = .ok () w' ∧ SameWindows (s := s) w w' := by
  unfold letGo
  by_cases installed : s.idle.isInstalled = true
  · rw [if_pos installed]
    have closed : s.closeWindows H w = .ok 0 (w.emptied s.scope) := by
      rw [closeWindows_eq, empty]
      rfl
    obtain ⟨idle, w₁, gone, same⟩ := uninstall_returns (s := s) quiet s.idle (w.emptied s.scope)
    refine ⟨_, (end_of_closed closed gone).2, same.presenters, same.buffers, ?_⟩
    exact (same.listed.trans (listed_emptied w s)).trans empty.symm
  · rw [if_neg installed]
    obtain ⟨idle, w', gone, same⟩ := uninstall_returns (s := s) quiet s.idle w
    exact ⟨w', bind_of_ok gone _, same⟩

/-- The end of a session panics only if closing its windows does, and the clean-up changes
nothing about windows. -/
theorem closeWindows_of_end_error {p : Panic}
    (panicked : s.drop H w = .error p w' ∨ s.shutdown H w = .error p w') :
    ∃ w₁, s.closeWindows H w = .error p w₁ ∧ SameWindows (s := s) w₁ w' := by
  cases closed : s.closeWindows H w with
  | ok windows w₁ =>
    obtain ⟨idle, w₂, gone, -⟩ := uninstall_returns (s := s) quiet s.idle w₁
    obtain ⟨shut, dropped⟩ := end_of_closed closed gone
    rw [shut, dropped] at panicked
    rcases panicked with e | e <;> cases e
  | error p' w₁ =>
    have empty : w₁.listed s = [] := listed_of_closeWindows_error closed
    have cleaned {cleanUp : Action (Workspace η) Unit} {w₂ : Workspace η}
        (clean : cleanUp w₁ = .ok () w₂) :
        Action.onPanic (s.closeWindows H) cleanUp w = .error p' w₂ := by
      rw [onPanic_of_error closed, after_of_ok clean]
    rcases panicked with dropped | shut
    · obtain ⟨idle, w₂, gone, same⟩ := uninstall_returns (s := s) quiet s.idle w₁
      have given : s.abandon H w₁ = .ok () w₂ := bind_of_ok gone _
      have e : s.drop H w = .error p' w₂ := bind_of_error (cleaned given) _
      rw [e] at dropped
      cases dropped
      exact ⟨w₁, rfl, same⟩
    · obtain ⟨w₂, gone, same⟩ := letGo_emptied quiet empty
      have e : s.shutdown H w = .error p' w₂ := bind_of_error (cleaned gone) _
      rw [e] at shut
      cases shut
      exact ⟨w₁, rfl, same⟩

end Session

/-- If turning the bars of a session on or off panics, some window panicked in its turn: those
before it were seen to, it has no client, and those after it were not touched, though the
session is switched already.  The same is left if closing the windows at the end of a session
panics, and no window is registered any more. -/
theorem panic_ends_fan_out (H : Host η) {s : Session} {w w' : Workspace η} {p : Panic}
    (apart : (w.listed s).Pairwise fun h k => h.presenter ≠ k.presenter)
    (quiet : ∀ idleHost subscription host, ∃ host',
      H.unsubscribeIdle idleHost subscription host = .ok () host') :
    (∀ enabled, s.setEnabled H enabled w = .error p w' →
      Interrupted (Handle.toggle H enabled) (w.listed s) (w.switched s.scope enabled) p w' ∧
        (w'.scopes.get s.scope).enabled = enabled ∧ w'.listed s = w.listed s) ∧
    (s.drop H w = .error p w' ∨ s.shutdown H w = .error p w' →
      Interrupted (Handle.leave H) (w.listed s) (w.emptied s.scope) p w' ∧ w'.listed s = []) := by
  constructor
  · intro enabled panicked
    have kept : Keeps (fun w' => (w'.scopes.get s.scope).enabled = enabled ∧
        w'.listed s = w.listed s) ((w.listed s).mapM (Handle.toggle H enabled)) :=
      Keeps.mapM fun h _ =>
        Handle.keeps_toggle (fun _ _ same => same) (fun _ same => same) enabled
    have start : ((w.switched s.scope enabled).scopes.get s.scope).enabled = enabled ∧
        (w.switched s.scope enabled).listed s = w.listed s :=
      ⟨by simp [Workspace.switched, Store.modify], w.listed_switched s enabled⟩
    refine ⟨Session.interrupted_setEnabled apart panicked, ?_⟩
    rw [Session.setEnabled_eq] at panicked
    rcases bind_eq_error panicked with first | ⟨attempts, w₁, -, rest⟩
    · exact after_of_error first ▸ kept _ start
    · cases rest
  · intro panicked
    obtain ⟨w₁, closed, same⟩ := Session.closeWindows_of_end_error quiet panicked
    refine ⟨(Session.interrupted_closeWindows apart closed).mono same.presenters same.buffers, ?_⟩
    exact same.listed.trans (Session.listed_of_closeWindows_error closed)

/-! ## Two windows, one of which panics -/

/-- A host with a slot for every manager, whose first client panics when it is told to
unregister. -/
def Host.brittle : Host Slotted where
  answer
    | .unregisterClient (.made _ 0) => Action.panic (.text "boom")
    | call => (Host.slotted fun _ => true).answer call
  onIdle := (Host.slotted fun _ => true).onIdle

namespace Brittle

def first : Handle := ⟨⟨1⟩, ⟨0⟩, ⟨0⟩⟩

def second : Handle := ⟨⟨2⟩, ⟨0⟩, ⟨1⟩⟩

def session : Session := ⟨⟨0⟩, ⟨⟨⟨0⟩, none⟩, ⟨0⟩, some ⟨0⟩⟩⟩

/-- Two windows with a client each, and a roster. -/
def scene (entries : List (WindowId × Handle)) : Workspace Slotted where
  host := {}
  rosters := ⟨1, fun _ => ⟨entries⟩⟩
  presenters := ⟨2, fun i =>
    ⟨⟨i + 1⟩, ⟨i⟩, ⟨i⟩, ⟨i⟩, ⟨i⟩, ⟨i⟩, ⟨i⟩, ⟨0⟩, some (.made ⟨i⟩ i), some 1, [], 0⟩⟩

end Brittle

open Brittle in
/-- The second window keeps its client because the first one panics.  It would lose it if the
first one were not registered. -/
theorem panic_costs_others :
    let both := scene [(⟨1⟩, first), (⟨2⟩, second)]
    let alone := scene [(⟨2⟩, second)]
    let off := (session.setEnabled Host.brittle false).after
    let dropped := (session.drop Host.brittle).after
    let shut := (session.shutdown Host.brittle).after
    (((off both).presenterOf second).client = some (.made ⟨1⟩ 1) ∧
      ((off alone).presenterOf second).client = none) ∧
    (((dropped both).presenterOf second).client = some (.made ⟨1⟩ 1) ∧
      ((dropped alone).presenterOf second).client = none) ∧
    ((shut both).presenterOf second).client = some (.made ⟨1⟩ 1) ∧
      ((shut alone).presenterOf second).client = none := by
  decide +kernel

open Brittle in
theorem panic_ends_fan_out_at_first :
    let w := scene [(⟨1⟩, first), (⟨2⟩, second)]
    ∃ w', session.shutdown Host.brittle w = .error (.text "boom") w' ∧ w'.listed session = [] := by
  intro w
  have apart : (w.listed session).Pairwise fun h k => h.presenter ≠ k.presenter := by decide
  have shut : session.shutdown Host.brittle w =
      .error (.text "boom") ((session.shutdown Host.brittle).after w) := rfl
  refine ⟨_, shut, ?_⟩
  exact ((panic_ends_fan_out Host.brittle apart fun _ _ host => ⟨host, rfl⟩).2 (.inr shut)).2

end OutlineBar
