/-
Turning all bars of a session on or off reaches every window.

Take a session whose windows are opened, get bars and lose them again, and which may be
switched on and off meanwhile.  If no call panics, `toggle_reaches_every_window` says that
switching tries every registered window once, reports the windows that failed, and leaves a
window attached exactly if bars are on and it did not fail.  No window escapes it: one that is
attached is registered, and bars are on.

What happens before is kept in order by `Synced`, which every operation allowed here keeps.
-/
import OutlineBar.Proofs.Host.Slotted
import OutlineBar.Proofs.Session.Synced

namespace OutlineBar

open OutlineBar.Action

variable {η : Type} {H : Host η} {s : Session}

/-! ## One toggle -/

namespace Workspace

variable {w w' : Workspace η}

theorem Turned.note {id : PresenterId} {on : Bool} (turned : Turned s id on w w')
    (trace : List Event) : Turned s id on w { w' with trace } :=
  ⟨⟨turned.sound, turned.scope, turned.roster, turned.size, turned.window⟩, turned.enabled,
    turned.others, turned.own⟩

theorem toggle_turns (steady : H.Steady) (sound : w.Sound) (enabled : Bool) (h : Handle) :
    ∃ status w', h.toggle H enabled w = .ok (h, status) w' ∧
      Turned s h.presenter (enabled && status.isOk) w w' := by
  have tried : ∃ status w', (if enabled then h.attach H else h.detach H) w = .ok status w' ∧
      Turned s h.presenter (enabled && status.isOk) w w' := by
    cases enabled with
    | true => exact attach_turns steady sound h
    | false => exact detach_turns steady sound h
  obtain ⟨status, w', done, turned⟩ := tried
  cases status with
  | ok _ => exact ⟨_, w', (bind_of_ok done _).trans rfl, turned⟩
  | error failure => exact ⟨_, _, (bind_of_ok done _).trans rfl, turned.note _⟩

/-- Whether some windows were attached or detached, each at most once, with these results, and
nothing else happened to windows. -/
structure TurnedAll (s : Session) (on : Bool) (handles : List Handle)
    (attempts : List (Handle × HostStatus)) (w w' : Workspace η) : Prop
    extends SameRoll s w w' where
  enabled : (w'.scopes.get s.scope).enabled = (w.scopes.get s.scope).enabled
  tried : attempts.map Prod.fst = handles
  others : ∀ id, id ∉ handles.map Handle.presenter →
    (w'.presenters.get id).client = (w.presenters.get id).client
  own : ∀ made ∈ attempts, (w'.presenterOf made.1).isAttached = (on && made.2.isOk)

/-- If no call panics, toggling goes through all windows. -/
theorem mapM_toggle_turns (steady : H.Steady) (enabled : Bool) {handles : List Handle}
    (apart : (handles.map Handle.presenter).Nodup) (sound : w.Sound) :
    ∃ attempts w', handles.mapM (Handle.toggle H enabled) w = .ok attempts w' ∧
      TurnedAll s enabled handles attempts w w' := by
  induction handles generalizing w with
  | nil => exact ⟨[], w, rfl, .refl w, rfl, rfl, fun _ _ => rfl, nofun⟩
  | cons h rest ih =>
    rw [List.map_cons, List.nodup_cons] at apart
    obtain ⟨elsewhere, apart⟩ := apart
    obtain ⟨status, w₁, first, turned⟩ := toggle_turns (s := s) steady sound enabled h
    obtain ⟨attempts, w', others, all⟩ := ih apart (turned.sound sound)
    refine ⟨(h, status) :: attempts, w', mapM_cons_of_ok first others, ?_⟩
    exact {
      toSameRoll := turned.toSameRoll.trans all.toSameRoll
      enabled := all.enabled.trans turned.enabled
      tried := by rw [List.map_cons, all.tried]
      others := fun id absent => by
        rw [List.map_cons, List.mem_cons, not_or] at absent
        exact (all.others id absent.2).trans (turned.others id absent.1)
      own := fun made mem => by
        rcases List.mem_cons.mp mem with rfl | mem
        · -- The windows after it leave it alone.
          have kept := all.others h.presenter elsewhere
          have own := turned.own
          unfold Presenter.isAttached at own
          unfold presenterOf Presenter.isAttached
          rw [kept]
          exact own
        · exact all.own made mem }

end Workspace

/-! ## Failures -/

theorem mem_failuresOf {attempts : List (Handle × HostStatus)} {id : WindowId}
    {failure : HostFailure} :
    (id, failure) ∈ failuresOf attempts ↔
      ∃ h : Handle, (h, .error failure) ∈ attempts ∧ h.window = id := by
  unfold failuresOf
  rw [List.mem_filterMap]
  constructor
  · rintro ⟨⟨h, status⟩, mem, made⟩
    cases status with
    | ok _ => cases made
    | error f =>
      cases made
      exact ⟨h, mem, rfl⟩
  · rintro ⟨h, mem, rfl⟩
    exact ⟨_, mem, rfl⟩

theorem keys_failuresOf_sublist (attempts : List (Handle × HostStatus)) :
    ((failuresOf attempts).map Prod.fst).Sublist ((attempts.map Prod.fst).map Handle.window) := by
  induction attempts with
  | nil => exact List.Sublist.slnil
  | cons made rest ih =>
    obtain ⟨h, status⟩ := made
    cases status with
    | ok _ => exact ih.cons _
    | error failure => exact ih.cons_cons _

/-- Among windows that were each tried once, those that failed are those with a failure. -/
theorem mem_keys_failuresOf {attempts : List (Handle × HostStatus)}
    (once : ((attempts.map Prod.fst).map Handle.window).Nodup) {made : Handle × HostStatus}
    (mem : made ∈ attempts) :
    made.1.window ∈ (failuresOf attempts).map Prod.fst ↔ made.2.isOk = false := by
  rw [List.map_map] at once
  rw [List.mem_map]
  constructor
  · rintro ⟨⟨id, failure⟩, failed, same⟩
    obtain ⟨h, mem', rfl⟩ := mem_failuresOf.mp failed
    have window : h.window = made.1.window := same
    have one : (h, .error failure) = made :=
      List.inj_on_of_nodup_map once mem' mem window
    rw [← one]
    rfl
  · intro failed
    obtain ⟨h, status⟩ := made
    cases status with
    | ok _ => cases failed
    | error failure => exact ⟨_, mem_failuresOf.mpr ⟨h, mem, rfl⟩, rfl⟩

/-! ## Turning bars on or off -/

namespace Session

open Workspace

variable {w : Workspace η}

theorem apart_listed (enrolled : Enrolled s w) :
    ((w.listed s).map Handle.presenter).Nodup ∧ ((w.listed s).map Handle.window).Nodup := by
  have roster : w.rosterOf s.scope = w.rosters.get s.idle.round.roster :=
    congrArg w.rosters.get enrolled.roster
  have keys : (w.listed s).map Handle.window =
      (w.rosters.get s.idle.round.roster).entries.map Prod.fst := by
    unfold listed Roster.handles
    rw [roster, List.map_map]
    refine List.map_congr_left fun entry mem => ?_
    exact (enrolled.entry (enrolled.keyed.mem_entries.mp mem)).1
  have windows : ((w.listed s).map Handle.window).Nodup := keys ▸ enrolled.keyed
  refine ⟨?_, windows⟩
  -- Windows are told apart by their presenters.
  have same : (w.listed s).map Handle.window =
      ((w.listed s).map Handle.presenter).map fun id => (w.presenters.get id).window := by
    rw [List.map_map]
    refine List.map_congr_left fun h mem => ?_
    unfold listed at mem
    rw [roster] at mem
    obtain ⟨id, found⟩ := enrolled.keyed.mem_handles.mp mem
    exact (enrolled.entry found).2.window.symm
  rw [same] at windows
  exact windows.of_map _

theorem mem_listed (enrolled : Enrolled s w) {h : Handle} :
    h ∈ w.listed s ↔ ∃ id, (w.rosters.get s.idle.round.roster).get? id = some h := by
  have roster : w.rosterOf s.scope = w.rosters.get s.idle.round.roster :=
    congrArg w.rosters.get enrolled.roster
  unfold listed
  rw [roster]
  exact enrolled.keyed.mem_handles

theorem sameRoll_switched (enabled : Bool) (w : Workspace η) :
    SameRoll s w (w.switched s.scope enabled) := by
  refine ⟨fun sound => sound, ?_, rfl, rfl, fun _ => rfl⟩
  simp [switched, Store.modify]

theorem enabled_switched (enabled : Bool) (w : Workspace η) :
    ((w.switched s.scope enabled).scopes.get s.scope).enabled = enabled := by
  simp [switched, Store.modify]

/-- What turning bars on or off comes to if no call panics. -/
theorem setEnabled_turns (steady : H.Steady) (enrolled : Enrolled s w) (enabled : Bool) :
    ∃ attempts w₁,
      (w.listed s).mapM (Handle.toggle H enabled) (w.switched s.scope enabled) = .ok attempts w₁ ∧
      s.setEnabled H enabled w = .ok (toggleAnswer enabled (failuresOf attempts)) { w₁ with
        trace := w₁.trace ++
          [.toggled enabled (w.listed s).length (failuresOf attempts).length] } ∧
      TurnedAll s enabled (w.listed s) attempts (w.switched s.scope enabled) w₁ := by
  have sound := (sameRoll_switched (s := s) enabled w).sound enrolled.sound
  obtain ⟨attempts, w₁, done, all⟩ := mapM_toggle_turns (s := s) steady enabled
    (apart_listed enrolled).1 sound
  have e := setEnabled_eq H s w enabled
  exact ⟨attempts, w₁, done, e.trans ((bind_of_ok done _).trans rfl), all⟩

/-- A window that is attached after bars were turned on or off was tried, or bars are on and it
was attached before. -/
theorem synced_setEnabled (steady : H.Steady) (synced : Synced s w) (enabled : Bool) :
    Synced s ((s.setEnabled H enabled).after w) := by
  obtain ⟨attempts, w₁, -, done, all⟩ := setEnabled_turns steady synced.toEnrolled enabled
  rw [after_of_ok done]
  have same : SameRoll s w w₁ := (sameRoll_switched enabled w).trans all.toSameRoll
  have flag : (w₁.scopes.get s.scope).enabled = enabled := all.enabled.trans (enabled_switched _ w)
  have attached (id : PresenterId) (given : id.index < w.presenters.size)
      (has : (w₁.presenters.get id).isAttached = true) : enabled = true ∧ w.Enrols s id := by
    by_cases tried : id ∈ (w.listed s).map Handle.presenter
    · rw [← all.tried, List.map_map, List.mem_map] at tried
      obtain ⟨made, mem, rfl⟩ := tried
      have own : (w₁.presenterOf made.1).isAttached = true := has
      rw [all.own made mem, Bool.and_eq_true] at own
      have listed : made.1 ∈ w.listed s := all.tried ▸ List.mem_map_of_mem mem
      obtain ⟨id, found⟩ := (mem_listed synced.toEnrolled).mp listed
      obtain ⟨rfl, mine⟩ := synced.entry found
      refine ⟨own.1, made.1, ?_, rfl⟩
      have window : (w.presenters.get made.1.presenter).window = made.1.window := mine.window
      exact window ▸ found
    · have kept := all.others id tried
      rw [Presenter.isAttached, kept] at has
      have enrols := synced.registered id given has
      obtain ⟨h, found, rfl⟩ := enrols
      have listed : h ∈ w.listed s := (mem_listed synced.toEnrolled).mpr ⟨_, found⟩
      exact absurd (List.mem_map_of_mem listed) tried
  have noted : Quiet s w₁ { w₁ with
      trace := w₁.trace ++ [.toggled enabled (w.listed s).length (failuresOf attempts).length] } :=
    .of_same rfl rfl rfl fun sound => sound
  refine noted.synced ⟨same.enrolled synced.toEnrolled, fun id given has => ?_,
    fun disabled id given => ?_⟩
  · rw [same.size] at given
    exact same.enrols.mpr (attached id given has).2
  · rw [same.size] at given
    by_contra has
    have has : (w₁.presenters.get id).isAttached = true := by simpa using has
    rw [flag, (attached id given has).1] at disabled
    cases disabled

end Session

/-! ## Sessions whose windows come and go -/

/-- Whether an operation does all that putting a bar into a window or taking it away takes, or has
nothing to do with that. -/
def WindowOperation.isWhole : WindowOperation → Bool
  | register | unregister | attach | detach => false
  | _ => true

/-- Whether an operation brings no grammar that panics. -/
def OutlinerOperation.Sound : OutlinerOperation → Prop
  | turnGrammar grammar => grammar.Sound
  | _ => True

/-- What can happen while a session goes on, as long as no two windows have one identity. -/
def Session.Allows (s : Session) (w : Workspace (Recorded η)) : Operation η → Prop
  | .openWindow parts scope => scope = s.scope ∧ parts.source.Sound ∧
    ∀ id : PresenterId, id.index < w.presenters.size → (w.presenters.get id).window ≠ parts.window
  | .window h operation => operation.isWhole = true ∧ w.Has s h
  | .session t operation => t = s ∧ operation.isEnding = false
  | .outliner _ operation => operation.Sound
  | .host _ => True

theorem Outliner.Sound.onOutliner {o : Outliner} (sound : o.Sound) {operation : OutlinerOperation}
    (harmless : operation.Sound) : (operation.onOutliner o).1.Sound := by
  cases o with
  | hosted broadcast => cases operation <;> trivial
  | background service =>
    cases operation with
    | loop m =>
      show Grammar.Sound ((service.move? m).getD (service, [])).1.grammar
      cases moved : service.move? m with
      | none => exact sound
      | some next =>
        obtain ⟨service', events⟩ := next
        have same : service'.grammar = service.grammar := by
          cases Service.moves_of_move? moved <;> rfl
        show service'.grammar.Sound
        rw [same]
        exact sound
    | turnGrammar grammar => exact harmless
    | request snapshot => exact sound
    | announce completion => exact sound
    | shutdown => exact sound

namespace Workspace

variable {w : Workspace (Recorded η)}

theorem synced_openWindow {w : Workspace η} (synced : Synced s w) {parts : WindowParts}
    (sound : parts.source.Sound)
    (unused : ∀ id : PresenterId, id.index < w.presenters.size →
      (w.presenters.get id).window ≠ parts.window) :
    Synced s ((openWindow H parts s.scope).after w) := by
  have stable : Stable H (fun _ => True) _ (Quiet s w) := stable_quiet s w
  have resolved : Quiet s w ((resolveOutliner H parts.source parts.buffer).after w) := by
    refine stable.keeps_resolveOutliner (fun _ => trivial) (fun resolver grammar own has => ?_) _
      w (.refl w)
    rw [own] at sound
    have started : (Outliner.background (.start grammar)).Sound := sound grammar has
    exact fun w quiet => quiet.trans (quiet_addOutliner started w)
  refine Keeps.after_bind_of_imp resolved (fun _ quiet => quiet.synced synced) ?_
  intro answer w₁ _ quiet
  cases answer with
  | error cause =>
    exact (stable.keeps_emit (.outlinerUnavailable parts.window
      (w₁.buffers.get parts.buffer).contentType cause.message) w₁ quiet).synced synced
  | ok outliner =>
    have filtered := stable.keeps_attachFilters (fun _ => trivial) parts.filters parts.view w₁ quiet
    refine Keeps.after_bind_of_imp filtered (fun _ quiet => quiet.synced synced) ?_
    intro status w₂ _ quiet
    cases status with
    | error failure => exact quiet.synced synced
    | ok _ =>
      have listening : Quiet s w ((subscribe H outliner).after w₂) :=
        stable.keeps_subscribe (fun _ => trivial)
          (fun w quiet => quiet.trans (quiet_subscribe outliner w)) w₂ quiet
      refine Keeps.after_bind_of_imp listening (fun _ quiet => quiet.synced synced) ?_
      intro listener w₃ _ quiet
      have noted := stable.keeps_emit (.created parts.window parts.view) w₃ quiet
      refine Keeps.after_bind_of_imp noted (fun _ quiet => quiet.synced synced) ?_
      intro _ w₄ _ quiet
      refine synced_add (quiet.synced synced) rfl fun id given => ?_
      rw [quiet.size] at given
      rw [quiet.window]
      exact unused id given

/-- Whatever an operation answers, it keeps the invariant if the action does. -/
theorem synced_ignore {α : Type} {act : Action (Workspace η) α} {w : Workspace η}
    (kept : Synced s (act.after w)) : Synced s ((do let _ ← act : Action _ Unit).after w) :=
  Keeps.after_bind (P := Synced s) kept fun _ _ _ synced => synced

/-- Everything that is allowed keeps the invariant. -/
theorem synced_perform (steady : H.Steady) (spares : H.Spares s.idle.round.roster)
    {w : Workspace (Recorded η)} (synced : Synced s w) {operation : Operation η}
    (allowed : s.Allows w operation) : Synced s ((operation.perform H).after w) := by
  cases operation with
  | openWindow parts scope =>
    obtain ⟨rfl, sound, unused⟩ := allowed
    exact synced_ignore (synced_openWindow synced sound unused)
  | window h operation =>
    obtain ⟨whole, has⟩ := allowed
    have steady := steady.recorded (some h.presenter)
    have quietly (kept : ∀ work ∈ operation.work, work.isQuiet = true)
        (rolled : Quiet s w ((operation.roll h).after w)) :
        Synced s ((operation.perform (H.recorded (some h.presenter)) h).after w) :=
      ((stable_quiet s w).after_perform operation kept
        (fun source _ => keeps_quiet_onIdle (spares.recorded _) w source) rolled).synced synced
    cases operation with
    | register | unregister | attach | detach => cases whole
    | adorn => exact synced_ignore (synced_adorn steady synced has)
    | unadorn => exact synced_ignore (synced_unadorn steady synced has)
    | maintain source => exact quietly (List.forall_mem_nil _) (.refl w)
    | _ => exact quietly (List.forall_mem_singleton.mpr rfl) (.refl w)
  | session t operation =>
    obtain ⟨rfl, goesOn⟩ := allowed
    cases operation with
    | shutdown | drop => cases goesOn
    | setEnabled enabled =>
      exact synced_ignore (Session.synced_setEnabled (steady.recorded none) synced enabled)
    | dispatch =>
      have drained : Quiet t w ((t.dispatch (H.recorded none)).after w) :=
        (stable_quiet t w).after_dispatch (fun _ _ => rfl) (.refl w)
      exact synced_ignore (drained.synced synced)
    | tick source =>
      have ticked : Keeps (Quiet t w) (t.onIdle (H.recorded none) source) :=
        (stable_quiet t w).keeps_tick trivial
          (keeps_quiet_onIdle (spares.recorded none) w source) _
      exact synced_ignore ((ticked w (.refl w)).synced synced)
  | outliner id operation =>
    have quiet : Quiet s w ((Operation.perform H (.outliner id operation)).after w) :=
      .of_same rfl rfl rfl fun sound => sound.set ((sound id).onOutliner allowed)
    exact quiet.synced synced
  | host change =>
    have quiet : Quiet s w ((Operation.perform H (.host change)).after w) :=
      .of_same rfl rfl rfl fun sound => sound
    exact quiet.synced synced

/-- A session that was just started has no windows. -/
theorem synced_start {options : Options} {idleHost : IdleHostId} {empty start : Workspace η}
    (unopened : empty.presenters.size = 0) (sound : empty.Sound)
    (begun : Session.start H options idleHost empty = .ok s start) : Synced s start := by
  obtain ⟨roster, w₁, added, begun⟩ := bind_eq_ok begun
  cases added
  obtain ⟨scope, w₂, added, begun⟩ := bind_eq_ok begun
  cases added
  obtain ⟨idle, w₃, installed, begun⟩ := bind_eq_ok begun
  cases begun
  obtain ⟨subscription, w₄, subscribed, installed⟩ := bind_eq_ok installed
  cases installed
  obtain ⟨host, -, rfl⟩ := zoom_eq_ok subscribed
  have none {id : PresenterId} (given : id.index < empty.presenters.size) : False := by
    omega
  have own : (empty.scopes.add (.ofOptions options (empty.rosters.add {}).1)).2.get
      (empty.scopes.add (.ofOptions options (empty.rosters.add {}).1)).1 =
        .ofOptions options (empty.rosters.add {}).1 := Store.get_add_self _ _
  have list : (empty.rosters.add {}).2.get (empty.rosters.add {}).1 = {} := Store.get_add_self _ _
  exact {
    sound
    roster := congrArg Scope.roster own
    keyed := by
      show ((empty.rosters.add {}).2.get (empty.rosters.add {}).1).Keyed
      rw [list]
      exact Roster.keyed_empty
    entry := fun {id h} found => by
      have found : ((empty.rosters.add {}).2.get (empty.rosters.add {}).1).get? id = some h := found
      rw [list] at found
      cases found
    distinct := fun given _ _ => (none given).elim
    registered := fun id given _ => (none given).elim
    off := fun _ id given => (none given).elim }

end Workspace

/-- Take a session in a workspace without other windows, on a host and with grammars that never
panic and with idle hooks that leave its roster alone, and any state that can be reached from its
start while windows with different identities are opened, get bars and lose them again.  A window
that is attached is registered under its own identity, and bars are on.  Turning bars on or off
returns.  It tries every registered window once; the failures that it answers are those of the
windows it tried, each once.  Afterwards bars are on or off as it was asked for, the same windows
are registered, and they are attached if bars are on and they did not fail. -/
theorem toggle_reaches_every_window (H : Host η) {options : Options} {idleHost : IdleHostId}
    {empty start w : Workspace (Recorded η)} (steady : H.Steady)
    (spares : H.Spares s.idle.round.roster) (unopened : empty.presenters.size = 0)
    (sound : empty.Sound)
    (begun : Session.start (H.recorded none) options idleHost empty = .ok s start)
    (reached : Reaches H s.Allows start w) :
    (∀ id : PresenterId, id.index < w.presenters.size → (w.presenters.get id).isAttached = true →
      (w.scopes.get s.scope).enabled = true ∧
        ∃ h ∈ w.listed s, h.presenter = id ∧ h.window = (w.presenters.get id).window ∧
          (w.rosterOf s.scope).get? h.window = some h) ∧
    ∀ enabled, ∃ attempts w₁ w',
      (w.listed s).mapM (Handle.toggle (H.recorded none) enabled) (w.switched s.scope enabled) =
        .ok attempts w₁ ∧
      s.setEnabled (H.recorded none) enabled w =
        .ok (Session.toggleAnswer enabled (failuresOf attempts)) w' ∧
      (attempts.map Prod.fst = w.listed s ∧ ((w.listed s).map Handle.window).Nodup ∧
        ((failuresOf attempts).map Prod.fst).Nodup) ∧
      w'.presenters = w₁.presenters ∧ (w'.scopes.get s.scope).enabled = enabled ∧
      w'.listed s = w.listed s ∧
      ∀ h ∈ w.listed s, (w'.presenterOf h).isAttached = true ↔
        enabled = true ∧ h.window ∉ (failuresOf attempts).map Prod.fst := by
  have synced : w.Synced s :=
    reached.invariant (P := Workspace.Synced s) (Workspace.synced_start unopened sound begun)
      fun w operation synced allowed => Workspace.synced_perform steady spares synced allowed
  have enrolled := synced.toEnrolled
  have roster : w.rosterOf s.scope = w.rosters.get s.idle.round.roster :=
    congrArg w.rosters.get enrolled.roster
  refine ⟨fun id given attached => ?_, fun enabled => ?_⟩
  · obtain ⟨⟨h, found, mine⟩, on⟩ := synced.attached given attached
    have window : h.window = (w.presenters.get id).window := (enrolled.entry found).1
    refine ⟨on, h, (Session.mem_listed enrolled).mpr ⟨_, found⟩, mine, window, ?_⟩
    rw [roster, window]
    exact found
  · obtain ⟨attempts, w₁, tried, done, all⟩ :=
      Session.setEnabled_turns (steady.recorded none) enrolled enabled
    obtain ⟨-, windows⟩ := Session.apart_listed enrolled
    have once : ((attempts.map Prod.fst).map Handle.window).Nodup := by
      rw [all.tried]
      exact windows
    refine ⟨attempts, w₁, _, tried, done, ⟨all.tried, windows, ?_⟩, rfl, ?_, ?_, ?_⟩
    · exact once.sublist (keys_failuresOf_sublist attempts)
    · exact all.enabled.trans (Session.enabled_switched enabled w)
    · have same : Workspace.SameRoll s w w₁ :=
        (Session.sameRoll_switched enabled w).trans all.toSameRoll
      show (w₁.rosters.get (w₁.scopes.get s.scope).roster).handles = _
      rw [same.scope, enrolled.roster, same.roster]
      exact congrArg Roster.handles roster.symm
    · intro h mem
      rw [← all.tried, List.mem_map] at mem
      obtain ⟨made, mem, rfl⟩ := mem
      have own := all.own made mem
      show (w₁.presenterOf made.1).isAttached = true ↔ _
      rw [own, mem_keys_failuresOf once mem, Bool.and_eq_true, Bool.not_eq_false]

theorem Host.slotted_steady (removes : Nat → Bool) : (Host.slotted removes).Steady := by
  intro call host
  cases call with
  | removeBar bars =>
    show ∃ a host', Slotted.remove (removes host.asked) bars host = .ok a host'
    unfold Slotted.remove
    split <;> exact ⟨_, _, rfl⟩
  | addBar bars _ client =>
    show ∃ a host', Slotted.add bars client host = .ok a host'
    unfold Slotted.add
    split <;> exact ⟨_, _, rfl⟩
  | _ => exact ⟨_, _, rfl⟩

/-- Two windows are attached, and their bars are turned on again.  The host does not remove the
bar of the first one. -/
theorem toggle_reaches_every_window_of_two :
    let H := Host.slotted fun n => decide (2 ≤ n)
    let s : Session := ⟨⟨0⟩, ⟨⟨⟨0⟩, none⟩, ⟨0⟩, some ⟨0⟩⟩⟩
    ∃ w w' : Workspace (Recorded Slotted),
      s.setEnabled (H.recorded none) true w =
        .ok (.error ⟨true, [(⟨0⟩, .general .removeBar)]⟩) w' ∧
      (w'.presenterOf ⟨⟨0⟩, ⟨0⟩, ⟨0⟩⟩).isAttached = false ∧
      (w'.presenterOf ⟨⟨1⟩, ⟨0⟩, ⟨1⟩⟩).isAttached = true := by
  intro H s
  let parts (n : Nat) : WindowParts := ⟨⟨n⟩, ⟨n⟩, ⟨n⟩, ⟨n⟩, ⟨n⟩, ⟨n⟩, ⟨n⟩, .host ⟨0⟩⟩
  let h (n : Nat) : Handle := ⟨⟨n⟩, ⟨0⟩, ⟨n⟩⟩
  let empty : Workspace (Recorded Slotted) := { host := ⟨{}, []⟩ }
  let start := (Session.start (H.recorded none) {} ⟨0⟩).after empty
  have begun : Session.start (H.recorded none) {} ⟨0⟩ empty = .ok s start := rfl
  have reached : Reaches H s.Allows start start := .start
  have reached := reached.step (.openWindow (parts 0) ⟨0⟩)
    ⟨rfl, trivial, fun _ given => absurd given (Nat.not_lt_zero _)⟩
  have reached := reached.step (.openWindow (parts 1) ⟨0⟩) ⟨rfl, trivial, fun ⟨i⟩ given => by
    have given : i < 1 := given
    obtain rfl : i = 0 := by omega
    decide +kernel⟩
  have reached := reached.step (.window (h 0) .adorn)
    ⟨rfl, rfl, by decide +kernel, by decide +kernel⟩
  have reached := reached.step (.window (h 1) .adorn)
    ⟨rfl, rfl, by decide +kernel, by decide +kernel⟩
  let answer (w : Workspace (Recorded Slotted)) : Option (Except ToggleError Unit) :=
    match s.setEnabled (H.recorded none) true w with
    | .ok answer _ => some answer
    | .error _ _ => none
  -- From here on only these facts about the state matter.
  obtain ⟨w, reached, listed, answered⟩ : ∃ w, Reaches H s.Allows start w ∧
      w.listed s = [h 0, h 1] ∧ answer w = some (.error ⟨true, [(⟨0⟩, .general .removeBar)]⟩) :=
    ⟨_, reached, by decide +kernel, by decide +kernel⟩
  have sound : empty.Sound := fun _ => trivial
  obtain ⟨attempts, w₁, w', -, done, -, -, -, -, attached⟩ :=
    (toggle_reaches_every_window H (Host.slotted_steady _) (fun _ _ _ => rfl) rfl sound begun
      reached).2 true
  unfold answer at answered
  rw [done] at answered
  have answered := Option.some.inj answered
  have failures : failuresOf attempts = [(⟨0⟩, .general .removeBar)] := by
    unfold Session.toggleAnswer at answered
    split at answered
    · cases answered
    · exact congrArg ToggleError.failures (Except.error.inj answered)
  rw [listed, failures] at attached
  refine ⟨w, w', answered ▸ done, ?_, ?_⟩
  · have failed := attached (h 0) List.mem_cons_self
    simpa [h] using failed
  · have followed := attached (h 1) (List.mem_cons_of_mem _ List.mem_cons_self)
    exact followed.mpr ⟨rfl, by decide⟩

end OutlineBar
