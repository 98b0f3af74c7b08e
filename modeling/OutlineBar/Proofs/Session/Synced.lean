/-
Which windows are registered with a session, and which have a bar.

`Synced` is the invariant of a session whose windows come and go: a window that has a client
is registered under its own identity, and while bars are off no window has one.  Operations
that neither attach nor detach windows change none of what it says, and are `Quiet`.  The
others put windows into the roster, take them out, or attach and detach them, and there is one
lemma for each of these.
-/
import OutlineBar.Proofs.Presenter.Outcome
import OutlineBar.Proofs.Presenter.Steady
import OutlineBar.Proofs.Roster
import OutlineBar.Proofs.Service.Moves
import OutlineBar.Proofs.Workspace.Stable

namespace OutlineBar

open OutlineBar.Action

variable {η : Type} {H : Host η} {s : Session} {h : Handle}

/-- Whether idle hooks leave a roster alone. -/
def Host.Spares (H : Host η) (roster : RosterId) : Prop :=
  ∀ filters source b, ((H.onIdle filters source).after b).rosters.get roster = b.rosters.get roster

theorem Host.Spares.recorded {roster : RosterId} (spares : H.Spares roster)
    (caller : Option PresenterId) : (H.recorded caller).Spares roster := by
  intro filters source b
  unfold Host.recorded
  dsimp only
  rw [after_zoom]
  exact spares filters source _

/-- Whether new outliners get a grammar that never panics. -/
def OutlinerSource.Sound : OutlinerSource → Prop
  | .rule resolver => ∀ grammar, resolver.grammar = some grammar → grammar.Sound
  | .host _ => True

namespace Workspace

variable {w w' w'' : Workspace η}

/-- Whether no outliner has a grammar that panics. -/
def Sound (w : Workspace η) : Prop := ∀ id, (w.outliners.get id).Sound

theorem Sound.set (sound : w.Sound) {id : OutlinerId} {outliner : Outliner}
    (new : outliner.Sound) : ∀ other, ((w.outliners.set id outliner).get other).Sound := by
  intro other
  by_cases e : other = id
  · subst e
    rw [Store.get_set_self]
    exact new
  · rw [Store.get_set_of_ne _ _ e]
    exact sound other

/-- Whether a handle is on a window that was opened with a session. -/
structure Has (s : Session) (w : Workspace η) (h : Handle) : Prop where
  scope : h.scope = s.scope
  known : w.Knows h
  window : (w.presenterOf h).window = h.window

/-- Whether windows that were opened with a session, and only those, are registered with it, each
under its own identity. -/
structure Enrolled (s : Session) (w : Workspace η) : Prop where
  sound : w.Sound
  roster : (w.scopes.get s.scope).roster = s.idle.round.roster
  keyed : (w.rosters.get s.idle.round.roster).Keyed
  entry : ∀ {id h}, (w.rosters.get s.idle.round.roster).get? id = some h →
    h.window = id ∧ Has s w h
  distinct : ∀ {id other : PresenterId}, id.index < w.presenters.size →
    other.index < w.presenters.size →
    (w.presenters.get other).window = (w.presenters.get id).window → other = id

/-- Whether a window is registered under its own identity. -/
def Enrols (s : Session) (w : Workspace η) (id : PresenterId) : Prop :=
  ∃ h, (w.rosters.get s.idle.round.roster).get? (w.presenters.get id).window = some h ∧
    h.presenter = id

structure Synced (s : Session) (w : Workspace η) : Prop extends Enrolled s w where
  registered : ∀ id : PresenterId, id.index < w.presenters.size →
    (w.presenters.get id).isAttached = true → w.Enrols s id
  off : (w.scopes.get s.scope).enabled = false → ∀ id : PresenterId,
    id.index < w.presenters.size → (w.presenters.get id).isAttached = false

/-! ## Changes that leave the registered windows alone -/

/-- Whether a change leaves alone which windows there are and which are registered. -/
structure SameRoll (s : Session) (w w' : Workspace η) : Prop where
  sound : w.Sound → w'.Sound
  scope : (w'.scopes.get s.scope).roster = (w.scopes.get s.scope).roster
  roster : w'.rosters.get s.idle.round.roster = w.rosters.get s.idle.round.roster
  size : w'.presenters.size = w.presenters.size
  window : ∀ id, (w'.presenters.get id).window = (w.presenters.get id).window

namespace SameRoll

theorem refl (w : Workspace η) : SameRoll s w w :=
  ⟨fun sound => sound, rfl, rfl, rfl, fun _ => rfl⟩

theorem trans (same : SameRoll s w w') (same' : SameRoll s w' w'') : SameRoll s w w'' where
  sound sound := same'.sound (same.sound sound)
  scope := same'.scope.trans same.scope
  roster := same'.roster.trans same.roster
  size := same'.size.trans same.size
  window id := (same'.window id).trans (same.window id)

theorem putDesk {id : PresenterId} {d : Desk η}
    (fixed : d.presenter.fixed = (w.presenters.get id).fixed)
    (sound : w.Sound → d.outliner.Sound) : SameRoll s w (w.putDesk id d) where
  sound all := all.set (sound all)
  scope := rfl
  roster := rfl
  size := rfl
  window := w.presenters.map_get_set Presenter.window (window_of_fixed fixed)

theorem enrolled (same : SameRoll s w w') (enrolled : Enrolled s w) : Enrolled s w' where
  sound := same.sound enrolled.sound
  roster := same.scope.trans enrolled.roster
  keyed := same.roster ▸ enrolled.keyed
  entry {id h} found := by
    rw [same.roster] at found
    obtain ⟨own, has⟩ := enrolled.entry found
    refine ⟨own, has.scope, ?_, (same.window _).trans has.window⟩
    unfold Knows
    rw [same.size]
    exact has.known
  distinct given given' e := by
    rw [same.size] at given given'
    rw [same.window, same.window] at e
    exact enrolled.distinct given given' e

theorem enrols (same : SameRoll s w w') {id : PresenterId} : w'.Enrols s id ↔ w.Enrols s id := by
  unfold Enrols
  rw [same.roster, same.window]

end SameRoll

/-- Whether a change also leaves alone which windows have a client, and whether bars are on. -/
structure Quiet (s : Session) (w w' : Workspace η) : Prop extends SameRoll s w w' where
  enabled : (w'.scopes.get s.scope).enabled = (w.scopes.get s.scope).enabled
  client : ∀ id, (w'.presenters.get id).client = (w.presenters.get id).client

namespace Quiet

theorem refl (w : Workspace η) : Quiet s w w := ⟨.refl w, rfl, fun _ => rfl⟩

theorem trans (quiet : Quiet s w w') (quiet' : Quiet s w' w'') : Quiet s w w'' where
  toSameRoll := quiet.toSameRoll.trans quiet'.toSameRoll
  enabled := quiet'.enabled.trans quiet.enabled
  client id := (quiet'.client id).trans (quiet.client id)

/-- A change of outliners and rosters. -/
theorem of_same (presenters : w'.presenters = w.presenters) (scopes : w'.scopes = w.scopes)
    (roster : w'.rosters.get s.idle.round.roster = w.rosters.get s.idle.round.roster)
    (sound : w.Sound → w'.Sound) : Quiet s w w' := by
  refine ⟨⟨sound, ?_, roster, ?_, fun _ => ?_⟩, ?_, fun _ => ?_⟩
  all_goals first | rw [presenters] | rw [scopes]

theorem putDesk {id : PresenterId} {d : Desk η} (quiet : Desk.Quiet (w.desk id) d) :
    Quiet s w (w.putDesk id d) where
  toSameRoll := .putDesk quiet.fixed fun sound => quiet.sound (sound _)
  enabled := rfl
  client := w.presenters.map_get_set Presenter.client quiet.client

theorem synced (quiet : Quiet s w w') (synced : Synced s w) : Synced s w' where
  toEnrolled := quiet.enrolled synced.toEnrolled
  registered id given attached := by
    rw [quiet.size] at given
    rw [Presenter.isAttached, quiet.client] at attached
    exact quiet.enrols.mpr (synced.registered id given attached)
  off disabled id given := by
    rw [quiet.enabled] at disabled
    rw [quiet.size] at given
    rw [Presenter.isAttached, quiet.client]
    exact synced.off disabled id given

end Quiet

/-! ### Operations that are quiet -/

theorem quiet_addOutliner {outliner : Outliner} (sound : outliner.Sound) (w : Workspace η) :
    Quiet s w { w with outliners := (w.outliners.add outliner).2 } := by
  refine .of_same rfl rfl rfl fun all id => ?_
  by_cases e : id.index = w.outliners.size
  · have new : id = (w.outliners.add outliner).1 := congrArg Ref.mk e
    subst new
    rw [Store.get_add_self]
    exact sound
  · rw [Store.get_add_of_ne _ _ e]
    exact all id

theorem quiet_subscribe (outliner : OutlinerId) (w : Workspace η) : Quiet s w { w with
    outliners := w.outliners.set outliner (w.outliners.get outliner).subscribe.2 } :=
  .of_same rfl rfl rfl fun sound => sound.set ((sound outliner).withBroadcast _)

/-- Work that neither attaches nor detaches a window is quiet. -/
theorem stable_quiet (s : Session) (w : Workspace η) :
    Stable H (fun _ => True) (fun _ operation => operation.isQuiet = true) (Quiet s w) where
  note _ quiet := quiet.trans (.of_same rfl rfl rfl fun sound => sound)
  wake _ quiet := quiet.trans (.of_same rfl rfl rfl fun sound => sound)
  call _ quiet := quiet.trans (.of_same rfl rfl rfl fun sound => sound)
  desk kept quiet := quiet.trans (.putDesk (Desk.quiet_leaves H kept _))

/-- An idle hook that leaves the session's roster alone. -/
theorem keeps_quiet_onIdle (spares : H.Spares s.idle.round.roster) (w : Workspace η)
    (source : IdleSourceId) (filters : FiltersId) :
    Keeps (Quiet s w) (onBackstage (H.onIdle filters source)) := by
  refine Keeps.zoom fun w quiet => quiet.trans (.of_same rfl rfl ?_ fun sound => sound)
  exact spares filters source w.toBackstage

/-! ## Changes of the registered windows -/

/-- A roster that lists windows of the session takes the place of the old one. -/
theorem Enrolled.relist (enrolled : Enrolled s w) {r : Roster} (keyed : r.Keyed)
    (entry : ∀ {id h}, r.get? id = some h → h.window = id ∧ Has s w h) {w' : Workspace η}
    (roster : w'.rosters.get s.idle.round.roster = r) (presenters : w'.presenters = w.presenters)
    (scopes : w'.scopes = w.scopes) (outliners : w'.outliners = w.outliners) : Enrolled s w' where
  sound := by
    unfold Sound
    rw [outliners]
    exact enrolled.sound
  roster := by
    rw [scopes]
    exact enrolled.roster
  keyed := roster ▸ keyed
  entry {id h} found := by
    rw [roster] at found
    obtain ⟨own, has⟩ := entry found
    refine ⟨own, has.scope, ?_, ?_⟩
    · unfold Knows
      rw [presenters]
      exact has.known
    · unfold presenterOf
      rw [presenters]
      exact has.window
  distinct := by
    rw [presenters]
    exact enrolled.distinct

/-- The roster that a window's registration goes to. -/
theorem roster_of_has (enrolled : Enrolled s w) (has : Has s w h) :
    (w.scopes.get h.scope).roster = s.idle.round.roster := by
  rw [has.scope]
  exact enrolled.roster

/-- A window that is registered is found under its identity. -/
theorem synced_register (synced : Synced s w) (has : Has s w h) :
    Synced s (h.register.after w) ∧ (h.register.after w).Enrols s h.presenter := by
  have place := roster_of_has synced.toEnrolled has
  have roster : (h.register.after w).rosters.get s.idle.round.roster =
      ((w.rosters.get s.idle.round.roster).put h.window h).2 := by
    rw [← place]
    exact Store.get_set_self _ _ _
  have presenters : (h.register.after w).presenters = w.presenters := rfl
  have own : (h.register.after w).Enrols s h.presenter := by
    refine ⟨h, ?_, rfl⟩
    have window : (w.presenters.get h.presenter).window = h.window := has.window
    rw [roster, presenters, window]
    exact Roster.get?_put_self _ _ _
  have enrolled : Enrolled s (h.register.after w) := by
    refine synced.relist (synced.keyed.put h.window h) (fun {id k} found => ?_) roster rfl rfl rfl
    by_cases e : id = h.window
    · subst e
      rw [Roster.get?_put_self] at found
      cases found
      exact ⟨rfl, has⟩
    · rw [Roster.get?_put_of_ne e] at found
      exact synced.entry found
  refine ⟨⟨enrolled, fun id given attached => ?_, synced.off⟩, own⟩
  by_cases e : (w.presenters.get id).window = h.window
  · have same : id = h.presenter := synced.distinct has.known given (e.trans has.window.symm)
    rw [same]
    exact own
  · obtain ⟨k, found, mine⟩ := synced.registered id given attached
    refine ⟨k, ?_, mine⟩
    rw [roster, presenters, Roster.get?_put_of_ne e]
    exact found

/-- A window that is taken out of the roster is the only one that may be attached without being
registered. -/
theorem enrolled_unregister (synced : Synced s w) (has : Has s w h) :
    Enrolled s (h.unregister.after w) ∧ ∀ id : PresenterId, id ≠ h.presenter →
      id.index < w.presenters.size → (w.presenters.get id).isAttached = true →
      (h.unregister.after w).Enrols s id := by
  have place := roster_of_has synced.toEnrolled has
  have roster : (h.unregister.after w).rosters.get s.idle.round.roster =
      ((w.rosters.get s.idle.round.roster).remove h.window).2 := by
    rw [← place]
    exact Store.get_set_self _ _ _
  constructor
  · refine synced.relist (synced.keyed.remove h.window) (fun {id k} found => ?_) roster rfl rfl rfl
    by_cases e : id = h.window
    · subst e
      rw [Roster.get?_remove_self] at found
      cases found
    · rw [Roster.get?_remove_of_ne e] at found
      exact synced.entry found
  · intro id ne given attached
    have elsewhere : (w.presenters.get id).window ≠ h.window := fun e =>
      ne (synced.distinct has.known given (e.trans has.window.symm))
    obtain ⟨k, found, mine⟩ := synced.registered id given attached
    refine ⟨k, ?_, mine⟩
    have presenters : (h.unregister.after w).presenters = w.presenters := rfl
    rw [roster, presenters, Roster.get?_remove_of_ne elsewhere]
    exact found

/-- A new window is neither registered nor attached. -/
theorem synced_add (synced : Synced s w) {p : Presenter} (unattached : p.isAttached = false)
    (unused : ∀ id : PresenterId, id.index < w.presenters.size →
      (w.presenters.get id).window ≠ p.window) :
    Synced s { w with presenters := (w.presenters.add p).2 } := by
  have kept {id : PresenterId} (given : id.index < w.presenters.size) :
      (w.presenters.add p).2.get id = w.presenters.get id := Store.get_add_of_lt _ _ given
  have newest : (w.presenters.add p).2.get (w.presenters.add p).1 = p := Store.get_add_self _ _
  refine ⟨⟨synced.sound, synced.roster, synced.keyed, fun {id k} found => ?_,
    fun {id other} given given' same => ?_⟩, fun id given attached => ?_,
    fun disabled id given => ?_⟩
  · obtain ⟨own, has⟩ := synced.entry found
    refine ⟨own, has.scope, Nat.lt_succ_of_lt has.known, ?_⟩
    show ((w.presenters.add p).2.get k.presenter).window = k.window
    rw [kept has.known]
    exact has.window
  · dsimp only at same
    rcases Store.eq_or_lt_of_lt_add _ p given with rfl | old <;>
      rcases Store.eq_or_lt_of_lt_add _ p given' with rfl | old'
    · rfl
    · rw [kept old', newest] at same
      exact absurd same (unused other old')
    · rw [kept old, newest] at same
      exact absurd same.symm (unused id old)
    · rw [kept old, kept old'] at same
      exact synced.distinct old old' same
  · dsimp only at attached
    rcases Store.eq_or_lt_of_lt_add _ p given with rfl | old
    · rw [newest, unattached] at attached
      cases attached
    · rw [kept old] at attached
      obtain ⟨k, found, mine⟩ := synced.registered id old attached
      refine ⟨k, ?_, mine⟩
      dsimp only
      rw [kept old]
      exact found
  · dsimp only
    rcases Store.eq_or_lt_of_lt_add _ p given with rfl | old
    · rw [newest]
      exact unattached
    · rw [kept old]
      exact synced.off disabled id old

/-! ## Attaching and detaching -/

/-- Whether one window was attached or detached, and nothing else happened to windows. -/
structure Turned (s : Session) (id : PresenterId) (on : Bool) (w w' : Workspace η) : Prop
    extends SameRoll s w w' where
  enabled : (w'.scopes.get s.scope).enabled = (w.scopes.get s.scope).enabled
  others : ∀ other, other ≠ id → (w'.presenters.get other).client = (w.presenters.get other).client
  own : (w'.presenters.get id).isAttached = on

theorem Turned.putDesk {id : PresenterId} {d : Desk η}
    (tame : Desk.Tame (w.presenters.get id) d) :
    Turned s id d.presenter.isAttached w (w.putDesk id d) where
  toSameRoll := .putDesk tame.fixed fun _ => tame.sound
  enabled := rfl
  others _ ne := congrArg Presenter.client (Store.get_set_of_ne _ _ ne)
  own := congrArg Presenter.isAttached (Store.get_set_self _ _ _)

theorem attach_turns (steady : H.Steady) (sound : w.Sound) (h : Handle) :
    ∃ status w', h.attach H w = .ok status w' ∧ Turned s h.presenter status.isOk w w' := by
  obtain ⟨status, d, attached, tame⟩ := Desk.attach_returns steady (d := w.desk h.presenter)
    (sound _)
  have settled := Desk.settles_attach H (w.desk h.presenter)
  rw [attached] at settled
  have on : d.presenter.isAttached = status.isOk := by
    cases status with
    | ok _ => exact settled
    | error failure =>
      have none : d.presenter.client = none := settled
      rw [Presenter.isAttached, none]
      rfl
  exact ⟨status, w.putDesk h.presenter d, onDesk_of_ok attached, on ▸ .putDesk tame⟩

theorem detach_turns (steady : H.Steady) (sound : w.Sound) (h : Handle) :
    ∃ status w', h.detach H w = .ok status w' ∧ Turned s h.presenter false w w' := by
  obtain ⟨status, d, detached, tame⟩ := Desk.detach_returns steady (d := w.desk h.presenter)
    (sound _)
  have none := Desk.client_after_detach H (w.desk h.presenter)
  rw [after_of_ok detached] at none
  have off : d.presenter.isAttached = false := by
    rw [Presenter.isAttached, none]
    rfl
  exact ⟨status, w.putDesk h.presenter d, onDesk_of_ok detached, off ▸ .putDesk tame⟩

/-- Turning one window keeps the invariant if it held for the others, and for this one in so far
as it is attached now. -/
theorem Turned.synced {id : PresenterId} {on : Bool} (turned : Turned s id on w w')
    (enrolled : Enrolled s w)
    (others : ∀ other : PresenterId, other ≠ id → other.index < w.presenters.size →
      (w.presenters.get other).isAttached = true →
      w.Enrols s other ∧ (w.scopes.get s.scope).enabled = true)
    (own : on = true → w.Enrols s id ∧ (w.scopes.get s.scope).enabled = true) : Synced s w' := by
  have attached (other : PresenterId) (given : other.index < w.presenters.size)
      (has : (w'.presenters.get other).isAttached = true) :
      w.Enrols s other ∧ (w.scopes.get s.scope).enabled = true := by
    by_cases e : other = id
    · subst e
      exact own (turned.own.symm.trans has)
    · rw [Presenter.isAttached, turned.others other e] at has
      exact others other e given has
  refine ⟨turned.enrolled enrolled, fun other given has => ?_, fun disabled other given => ?_⟩
  · rw [turned.size] at given
    exact turned.enrols.mpr (attached other given has).1
  · rw [turned.size] at given
    rw [turned.enabled] at disabled
    by_contra has
    have has : (w'.presenters.get other).isAttached = true := by simpa using has
    rw [(attached other given has).2] at disabled
    cases disabled

theorem Synced.attached (synced : Synced s w) {id : PresenterId}
    (given : id.index < w.presenters.size) (attached : (w.presenters.get id).isAttached = true) :
    w.Enrols s id ∧ (w.scopes.get s.scope).enabled = true := by
  refine ⟨synced.registered id given attached, ?_⟩
  by_contra disabled
  have none := synced.off (by simpa using disabled) id given
  rw [attached] at none
  cases none

/-! ## Bars come and go -/

theorem synced_adorn (steady : H.Steady) (synced : Synced s w) (has : Has s w h) :
    Synced s ((h.adorn H).after w) := by
  let P (w : Workspace η) : Prop := Synced s w ∧ w.Enrols s h.presenter
  have registered : P (h.register.after w) := synced_register synced has
  have noted : Keeps P (onDesk h.presenter (Desk.recordViews H)) := by
    refine Keeps.zoom fun w before => ?_
    have views : Desk.Quiet (w.desk h.presenter) _ :=
      Desk.quiet_leaves H (rfl : DeskOperation.recordViews.isQuiet = true) _
    have quiet : Quiet s w _ := .putDesk views
    exact ⟨quiet.synced before.1, quiet.enrols.mpr before.2⟩
  refine (Keeps.after_bind (P := P) registered fun _ w₁ _ before => ?_).1
  refine (Keeps.bind noted fun _ => Keeps.get_bind fun w₂ before => ?_) w₁ before
  by_cases on : (w₂.scopes.get h.scope).enabled = true
  · rw [if_pos on]
    rw [has.scope] at on
    obtain ⟨status, w₃, attached, turned⟩ := attach_turns (s := s) steady before.1.sound h
    rw [after_of_ok attached]
    refine ⟨turned.synced before.1.toEnrolled (fun _ _ given => before.1.attached given)
      fun _ => ⟨before.2, on⟩, turned.enrols.mpr before.2⟩
  · rw [if_neg on]
    have quiet : Quiet s w₂ ((emit (.barsDisabled h.window)).after w₂) :=
      .of_same rfl rfl rfl fun sound => sound
    exact ⟨quiet.synced before.1, quiet.enrols.mpr before.2⟩

theorem synced_unadorn (steady : H.Steady) (synced : Synced s w) (has : Has s w h) :
    Synced s ((h.unadorn H).after w) := by
  obtain ⟨enrolled, others⟩ := enrolled_unregister synced has
  obtain ⟨status, w', detached, turned⟩ := detach_turns (s := s) steady enrolled.sound h
  have taken : h.unregister w = .ok () (h.unregister.after w) := rfl
  have e : h.unadorn H w = .ok status w' := (bind_of_ok taken _).trans detached
  rw [after_of_ok e]
  refine turned.synced enrolled (fun other ne given attached => ?_) nofun
  exact ⟨others other ne given attached, (synced.attached given attached).2⟩

end Workspace

end OutlineBar
