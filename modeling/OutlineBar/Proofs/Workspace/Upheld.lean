/-
What the operations of a workspace keep.

Every operation is made of three things: what windows do on their desks, changes away from
desks, and a new presenter.  A predicate on workspaces that is `Upheld` by these is kept by
every operation on windows that were opened, which is what `Upheld.perform` says.

Changes away from desks may change the host.  What a predicate needs to know about that is
given as a `view` of the host that such changes leave alone.
-/
import OutlineBar.Proofs.Presenter.Attachment
import OutlineBar.Proofs.Workspace.Stable

namespace OutlineBar

open OutlineBar.Action

variable {η ξ : Type} {H : Host η} {view : η → ξ} {caller : Option PresenterId}

theorem HostCall.isAside_of_isOpening {call : HostCall} (opening : call.isOpening = true) :
    call.isAside = true := by
  cases call <;> first | rfl | cases opening

/-- Whether calls that are aside, and idle hooks, leave a view of the host alone. -/
structure Host.Overlooks (H : Host η) (view : η → ξ) : Prop where
  call : ∀ {call : HostCall} s, call.isAside = true → view ((H.answer call).after s) = view s
  idle : ∀ filters source b, view ((H.onIdle filters source).after b).host = view b.host

/-- There is nothing to see. -/
theorem Host.overlooks_nothing (H : Host η) : H.Overlooks fun _ => () :=
  ⟨fun _ _ => rfl, fun _ _ _ => rfl⟩

namespace Workspace

/-- A change of neither presenters nor buffers, and calls that are aside. -/
structure Aside (view : η → ξ) (caller : Option PresenterId) (w w' : Workspace (Recorded η)) :
    Prop where
  presenters : w'.presenters = w.presenters
  buffers : w'.buffers = w.buffers
  log : ∃ more, w'.host.log = w.host.log ++ more ∧
    ∀ r ∈ more, r.caller = caller ∧ r.call.isAside = true
  seen : view w'.host.host = view w.host.host

namespace Aside

theorem quiet {w w' : Workspace (Recorded η)} (presenters : w'.presenters = w.presenters)
    (buffers : w'.buffers = w.buffers) (host : w'.host = w.host) : Aside view caller w w' :=
  ⟨presenters, buffers, ⟨[], by rw [host, List.append_nil], List.forall_mem_nil _⟩, by rw [host]⟩

theorem refl (w : Workspace (Recorded η)) : Aside view caller w w := quiet rfl rfl rfl

theorem trans {w w' w'' : Workspace (Recorded η)} (h : Aside view caller w w')
    (h' : Aside view caller w' w'') : Aside view caller w w'' where
  presenters := h'.presenters.trans h.presenters
  buffers := h'.buffers.trans h.buffers
  log := by
    obtain ⟨more, log, own⟩ := h.log
    obtain ⟨more', log', own'⟩ := h'.log
    refine ⟨more ++ more', by rw [log', log, List.append_assoc], fun r mem => ?_⟩
    exact (List.mem_append.mp mem).elim (own r) (own' r)
  seen := h'.seen.trans h.seen

theorem grown {w w' : Workspace (Recorded η)} (h : Aside view caller w w') :
    Extends caller w.host.log w'.host.log := by
  obtain ⟨more, log, own⟩ := h.log
  exact ⟨more, log, fun r mem => (own r mem).1⟩

end Aside

section
variable (overlooks : H.Overlooks view)
include overlooks

theorem Aside.onHost {call : HostCall} (aside : call.isAside = true)
    (w : Workspace (Recorded η)) :
    Aside view caller w { w with host := ((H.recorded caller).answer call).after w.host } := by
  obtain ⟨outcome, called⟩ := Host.exists_calls H caller call w.host
  refine ⟨rfl, rfl, ⟨_, called.logged, ?_⟩, ?_⟩
  · intro r mem
    rw [List.mem_singleton.mp mem]
    exact ⟨rfl, aside⟩
  · show view (((H.recorded caller).answer call).after w.host).host = _
    rw [called.host_eq]
    exact overlooks.call w.host.host aside

/-- Events and calls that are aside are aside.  Nothing is said of desks. -/
theorem stable_aside (start : Workspace (Recorded η)) : Stable (H.recorded caller)
    (fun call => call.isAside = true) (fun _ _ => False) (Aside view caller start) where
  note _ before := before.trans (.quiet rfl rfl rfl)
  wake _ before := before.trans (.quiet rfl rfl rfl)
  call aside before := before.trans (.onHost overlooks aside _)
  desk := nofun

/-- An idle hook changes the host and rosters, and its calls are its own. -/
theorem keeps_aside_onIdle (start : Workspace (Recorded η)) (filters : FiltersId)
    (source : IdleSourceId) : Keeps (Aside view caller start)
      (onBackstage ((H.recorded caller).onIdle filters source)) := by
  refine Keeps.zoom fun w before => before.trans ?_
  have kept : Keeps (fun b => b.host.log = w.host.log ∧ view b.host.host = view w.host.host)
      ((H.recorded caller).onIdle filters source) :=
    Keeps.zoom fun b h => ⟨h.1, (overlooks.idle filters source _).trans h.2⟩
  obtain ⟨log, seen⟩ := kept w.toBackstage ⟨rfl, rfl⟩
  exact ⟨rfl, rfl, ⟨[], log.trans (List.append_nil _).symm, List.forall_mem_nil _⟩, seen⟩

end

end Workspace

/-! ## Predicates that are upheld -/

namespace Workspace

/-- A predicate on workspaces that is kept by all that operations are made of, if windows
are opened with parts that `opens` allows and the host makes changes by itself that
`changes` allows. -/
structure Upheld (H : Host η) (view : η → ξ) (opens : WindowParts → Prop)
    (changes : Workspace (Recorded η) → (η → η) → Prop) (P : Workspace (Recorded η) → Prop) :
    Prop where
  overlooks : H.Overlooks view
  aside : ∀ {caller w w'}, Aside view caller w w' → P w → P w'
  desk : ∀ {w id caller} operation, id.Allows caller → id.index < w.presenters.size → P w →
    P (w.putDesk id (DeskOperation.leaves (H.recorded caller) (w.desk id) operation))
  opened : ∀ {w parts p}, opens parts → p.IsNew parts → P w →
    P { w with presenters := (w.presenters.add p).2 }
  changed : ∀ {w change}, changes w change → P w →
    P { w with host := { w.host with host := change w.host.host } }

/-- What is known while an operation goes on: how many windows were opened. -/
def Stands (P : Workspace (Recorded η) → Prop) (count : Nat) (w : Workspace (Recorded η)) : Prop :=
  P w ∧ w.presenters.size = count

/-- What is known while an operation of a session goes on: also that the roster lists
windows that were opened. -/
def StandsIn (P : Workspace (Recorded η) → Prop) (count : Nat) (scope : ScopeId)
    (w : Workspace (Recorded η)) : Prop :=
  Stands P count w ∧ ∀ h ∈ (w.rosterOf scope).handles, h.presenter.index < count

namespace Upheld

variable {opens : WindowParts → Prop} {changes : Workspace (Recorded η) → (η → η) → Prop}
  {P : Workspace (Recorded η) → Prop} {count : Nat} {scope : ScopeId}
  {w : Workspace (Recorded η)}

variable (h : Upheld H view opens changes P)
include h

theorem unmoved {w' : Workspace (Recorded η)} (before : P w)
    (presenters : w'.presenters = w.presenters) (buffers : w'.buffers = w.buffers)
    (host : w'.host = w.host) : P w' :=
  h.aside (show Aside view none w w' from .quiet presenters buffers host) before

theorem stands_aside {w' : Workspace (Recorded η)} (before : Stands P count w)
    (aside : Aside view caller w w') : Stands P count w' :=
  ⟨h.aside aside before.1, by rw [aside.presenters]; exact before.2⟩

theorem stands_quiet {w' : Workspace (Recorded η)} (before : Stands P count w)
    (presenters : w'.presenters = w.presenters) (buffers : w'.buffers = w.buffers)
    (host : w'.host = w.host) : Stands P count w' :=
  ⟨h.unmoved before.1 presenters buffers host, by rw [presenters]; exact before.2⟩

theorem stands_desk {id : PresenterId} {operation : DeskOperation} (mine : id.Allows caller)
    (given : id.index < count) (before : Stands P count w) :
    Stands P count (w.putDesk id (operation.leaves (H.recorded caller) (w.desk id))) :=
  ⟨h.desk operation mine (before.2 ▸ given) before.1, before.2⟩

/-- What a window may do while it is known which windows were opened. -/
theorem stable_stands (caller : Option PresenterId) (count : Nat) : Stable (H.recorded caller)
    (fun call => call.isAside = true) (fun id _ => id.Allows caller ∧ id.index < count)
    (Stands P count) where
  note _ before := h.stands_quiet before rfl rfl rfl
  wake _ before := h.stands_quiet before rfl rfl rfl
  call aside before := h.stands_aside before (.onHost h.overlooks aside _)
  desk own before := h.stands_desk own.1 own.2 before

/-- What a session may do on the desks of windows that were opened. -/
theorem stable_standsIn (count : Nat) (scope : ScopeId) : Stable (H.recorded none)
    (fun call => call.isAside = true) (fun id _ => id.index < count)
    (StandsIn P count scope) where
  note _ before := ⟨h.stands_quiet before.1 rfl rfl rfl, before.2⟩
  wake _ before := ⟨h.stands_quiet before.1 rfl rfl rfl, before.2⟩
  call aside before := ⟨h.stands_aside before.1 (.onHost h.overlooks aside _), before.2⟩
  desk given before := ⟨h.stands_desk (.inr rfl) given before.1, before.2⟩

theorem window (before : P w) {handle : Handle} (known : w.Knows handle)
    (operation : WindowOperation) :
    P ((operation.perform (H.recorded (some handle.presenter)) handle).after w) := by
  have stable := h.stable_stands (some handle.presenter) w.presenters.size
  have rolled : Keeps (Stands P w.presenters.size) (operation.roll handle) :=
    Stable.keeps_roll (fun _ before => h.stands_quiet before rfl rfl rfl)
      (fun _ before => h.stands_quiet before rfl rfl rfl) operation
  have hooks (source : IdleSourceId) (filters : FiltersId) :
      Keeps (Stands P w.presenters.size)
        (onBackstage ((H.recorded (some handle.presenter)).onIdle filters source)) :=
    fun w before => h.stands_aside before
      (keeps_aside_onIdle h.overlooks w filters source w (.refl w))
  exact (stable.after_perform operation (fun _ _ => ⟨.inl rfl, known⟩)
    (fun source _ => hooks source) (rolled w ⟨before, rfl⟩)).1

/-- The roster is empty when the first window is detached, so closing again after a panic
finds no handle that was not there before. -/
theorem standsIn_emptied (before : StandsIn P count scope w) :
    StandsIn P count scope (w.emptied scope) := by
  refine ⟨h.stands_quiet before.1 rfl rfl rfl, fun handle mem => ?_⟩
  have empty : (w.emptied scope).rosterOf scope = {} := Store.get_set_self _ _ _
  rw [empty] at mem
  cases mem

theorem standsIn_switched (before : StandsIn P count scope w) (enabled : Bool) :
    StandsIn P count scope (w.switched scope enabled) := by
  refine ⟨h.stands_quiet before.1 rfl rfl rfl, ?_⟩
  have same : (w.switched scope enabled).rosterOf scope = w.rosterOf scope := by
    simp [rosterOf, switched, Store.modify]
  rw [same]
  exact before.2

theorem session (before : P w) {s : Session}
    (listed : ∀ handle ∈ (w.rosterOf s.scope).handles, w.Knows handle)
    (operation : SessionOperation) : P ((operation.perform (H.recorded none) s).after w) := by
  have start : StandsIn P w.presenters.size s.scope w := ⟨⟨before, rfl⟩, listed⟩
  have kept (noTick : ∀ source, operation ≠ .tick source) :
      Keeps (StandsIn P w.presenters.size s.scope) (operation.perform (H.recorded none) s) :=
    (h.stable_standsIn w.presenters.size s.scope).keeps_session operation
      (fun _ before k mem _ _ => before.2 k mem) (fun _ before => h.standsIn_emptied before)
      (fun _ enabled before => h.standsIn_switched before enabled)
      (fun source e => absurd e (noTick source)) fun _ _ _ => rfl
  cases operation with
  | tick source =>
    -- The idle hooks may change the roster, but a tick works on no desk.
    have ticked : Keeps (Aside view none w) (s.idle.round.run (H.recorded none) source) :=
      (stable_aside h.overlooks w).keeps_tick rfl
        (fun filters => keeps_aside_onIdle h.overlooks w filters source) _
    exact h.aside (ticked.bind (fun _ => Keeps.pure _) w (.refl w)) before
  | _ => exact (kept nofun w start).1.1

theorem openWindow (before : P w) {parts : WindowParts} (allowed : opens parts)
    (scope : ScopeId) : P ((Workspace.openWindow (H.recorded none) parts scope).after w) := by
  have stable : Stable (H.recorded none) (fun call => call.isAside = true) (fun _ _ => False) P :=
    { note := fun _ before => h.unmoved before rfl rfl rfl
      wake := fun _ before => h.unmoved before rfl rfl rfl
      call := fun aside before => h.aside (.onHost h.overlooks aside _) before
      desk := nofun }
  refine stable.keeps_openWindow HostCall.isAside_of_isOpening (fun _ _ _ _ w before => ?_)
    (fun _ w before => ?_) (fun p w new before => h.opened allowed new before) scope w before
  all_goals exact h.unmoved before rfl rfl rfl

/-- Every operation that is allowed keeps a predicate that is upheld. -/
theorem perform {operation : Operation η} (known : ∀ handle ∈ operation.handles w, w.Knows handle)
    (parts : ∀ parts scope, operation = .openWindow parts scope → opens parts)
    (change : ∀ change, operation = .host change → changes w change) (before : P w) :
    P ((operation.perform H).after w) := by
  cases operation with
  | openWindow given scope =>
    exact Keeps.after_bind (h.openWindow before (parts given scope rfl) scope) fun _ _ _ hw => hw
  | window handle operation =>
    exact h.window before (known handle List.mem_cons_self) operation
  | session s operation => exact h.session before known operation
  | outliner outliner operation =>
    exact h.unmoved before rfl rfl rfl
  | host given => exact h.changed (change given rfl) before

end Upheld

end Workspace

end OutlineBar
