/-
A window and its buffer always agree on the attached client.

Take a window opened on a buffer of its own.  Whatever is done with it, with other
windows, with sessions and with outliners, and however the host answers or panics, the
presenter has a client exactly when it has a shown version and exactly when the buffer
has the client under `attachedBar`.  The one exception is a client that panics when
it is detached.  `attachment_agrees` states this for all states that can be reached.

What one operation does to its own desk is known from `Desk.Stays`.  `Guarded` adds what
keeps other windows out: they all work on other buffers.
-/
import OutlineBar.Proofs.Host.Plain
import OutlineBar.Proofs.Presenter.Attachment
import OutlineBar.Proofs.Workspace.Upheld

namespace OutlineBar

variable {η : Type} {caller : Option PresenterId}

open OutlineBar.Action

/-! ## The invariant -/

/-- The state of a workspace as one window sees it that was opened as `fixed`, on a buffer
with the properties `bag`, when `count` windows have been opened. -/
structure Guarded (id : PresenterId) (fixed : Presenter) (bag : BufferBag) (count : Nat)
    (w : Workspace (Recorded η)) : Prop where
  size : w.presenters.size = count
  opened : id.index < count
  same : (w.presenters.get id).fixed = fixed
  alone : ∀ other, other ≠ id → other.index < count →
    (w.presenters.get other).buffer ≠ fixed.buffer
  settled : Settled w.host.log
  linked : (w.desk id).LinkedOrCut id
  others : ∀ k, k ≠ .attachedBar → (w.buffers.get fixed.buffer).bag.slot? k = bag.slot? k

/-- Calls that are aside leave a log settled. -/
theorem Workspace.Aside.grows {ξ : Type} {view : η → ξ} {w w' : Workspace (Recorded η)}
    (h : Workspace.Aside view caller w w') : Grows caller w.host.log w'.host.log := by
  obtain ⟨more, log, own⟩ := h.log
  refine ⟨h.grown, fun settled r client last refused => ?_⟩
  rw [log, List.getLast?_append] at last
  cases newest : more.getLast? with
  | none =>
    rw [newest] at last
    exact settled r client last refused
  | some r' =>
    rw [newest] at last
    cases last
    obtain ⟨_, _, bars, priority, failure, rfl⟩ := refused
    exact absurd (own _ (List.mem_of_getLast? newest)).2 nofun

namespace Guarded

variable {id : PresenterId} {fixed : Presenter} {bag : BufferBag} {count : Nat}
  {w w' : Workspace (Recorded η)}

theorem buffer (h : Guarded id fixed bag count w) :
    (w.presenters.get id).buffer = fixed.buffer :=
  show (w.presenters.get id).fixed.buffer = fixed.buffer by rw [h.same]

theorem aside {ξ : Type} {view : η → ξ} (h : Guarded id fixed bag count w)
    (aside : Workspace.Aside view caller w w') : Guarded id fixed bag count w' where
  size := by rw [aside.presenters]; exact h.size
  opened := h.opened
  same := by rw [aside.presenters]; exact h.same
  alone := by rw [aside.presenters]; exact h.alone
  settled := aside.grows.settled h.settled
  linked := by
    have linked := h.linked
    unfold Desk.LinkedOrCut Workspace.desk at linked ⊢
    dsimp only at linked ⊢
    rw [aside.presenters, aside.buffers]
    exact linked.imp (·.mono rfl aside.grows.grown) (·.mono aside.grows.grown)
  others := by rw [aside.buffers]; exact h.others

/-- What the host does by itself. -/
theorem changed (h : Guarded id fixed bag count w) (change : η → η) :
    Guarded id fixed bag count
      { w with host := { w.host with host := change w.host.host } } :=
  ⟨h.size, h.opened, h.same, h.alone, h.settled, h.linked, h.others⟩

/-- What the window does on its own desk. -/
theorem putOwn (h : Guarded id fixed bag count w) {d : Desk (Recorded η)}
    (stays : Desk.Stays id caller (w.desk id) d) : Guarded id fixed bag count (w.putDesk id d) := by
  have presenter : (w.putDesk id d).presenters.get id = d.presenter := Store.get_set_self _ _ _
  have buffer : d.presenter.buffer = fixed.buffer :=
    (buffer_of_fixed stays.fixed).trans h.buffer
  have written : ((w.putDesk id d).buffers.get fixed.buffer).bag = d.bag := by
    rw [← h.buffer]
    exact congrArg Buffer.bag (Store.get_set_self _ _ _)
  exact {
    size := h.size
    opened := h.opened
    same := by rw [presenter]; exact stays.fixed.trans h.same
    alone := fun other ne given => by
      show ((w.presenters.set id d.presenter).get other).buffer ≠ fixed.buffer
      rw [Store.get_set_of_ne _ _ ne]
      exact h.alone other ne given
    settled := stays.grows.settled h.settled
    linked := by
      have linked := stays.linked h.settled h.linked
      unfold Desk.LinkedOrCut Workspace.desk
      dsimp only
      rw [presenter, buffer, written]
      exact linked
    others := fun k ne => by
      rw [written, stays.others k ne, ← h.others k ne, ← h.buffer]
      rfl }

/-- What another window does on its desk. -/
theorem putOther (h : Guarded id fixed bag count w) {other : PresenterId} (ne : other ≠ id)
    (given : other.index < count) {d : Desk (Recorded η)}
    (stays : Desk.Stays other caller (w.desk other) d) :
    Guarded id fixed bag count (w.putDesk other d) := by
  have presenter : (w.putDesk other d).presenters.get id = w.presenters.get id :=
    Store.get_set_of_ne _ _ ne.symm
  have buffer : (w.putDesk other d).buffers.get fixed.buffer = w.buffers.get fixed.buffer :=
    Store.get_set_of_ne _ _ (h.alone other ne given).symm
  exact {
    size := h.size
    opened := h.opened
    same := by rw [presenter]; exact h.same
    alone := fun third ne' given' => by
      show ((w.presenters.set other d.presenter).get third).buffer ≠ fixed.buffer
      rw [w.presenters.map_get_set Presenter.buffer (buffer_of_fixed stays.fixed)]
      exact h.alone third ne' given'
    settled := stays.grows.settled h.settled
    linked := by
      have linked := h.linked
      have grown := stays.grows.grown
      unfold Desk.LinkedOrCut Workspace.desk at linked ⊢
      dsimp only at linked ⊢
      rw [h.buffer] at linked
      rw [presenter, h.buffer, buffer]
      exact linked.imp (·.mono rfl grown) (·.mono grown)
    others := by rw [buffer]; exact h.others }

theorem putDesk (h : Guarded id fixed bag count w) {other : PresenterId}
    (given : other.index < count) {d : Desk (Recorded η)}
    (stays : Desk.Stays other caller (w.desk other) d) :
    Guarded id fixed bag count (w.putDesk other d) := by
  by_cases e : other = id
  · subst e
    exact h.putOwn stays
  · exact h.putOther e given stays

/-- A new window on another buffer. -/
theorem add (guarded : Guarded id fixed bag count w) {p : Presenter}
    (elsewhere : p.buffer ≠ fixed.buffer) :
    Guarded id fixed bag (count + 1) { w with presenters := (w.presenters.add p).2 } := by
  have kept : ∀ r : PresenterId, r.index < count →
      (w.presenters.add p).2.get r = w.presenters.get r := fun r given =>
    Store.get_add_of_lt _ _ (guarded.size ▸ given)
  exact {
    size := congrArg (· + 1) guarded.size
    opened := Nat.lt_succ_of_lt guarded.opened
    same := by
      show ((w.presenters.add p).2.get id).fixed = fixed
      rw [kept id guarded.opened]
      exact guarded.same
    alone := by
      intro other ne given
      show ((w.presenters.add p).2.get other).buffer ≠ fixed.buffer
      rcases Store.eq_or_lt_of_lt_add _ p (guarded.size ▸ given) with new | old
      · rw [new, Store.get_add_self]
        exact elsewhere
      · have old : other.index < count := guarded.size ▸ old
        rw [kept other old]
        exact guarded.alone other ne old
    settled := guarded.settled
    linked := by
      have linked := guarded.linked
      unfold Desk.LinkedOrCut Workspace.desk at linked ⊢
      dsimp only at linked ⊢
      rw [kept id guarded.opened]
      exact linked
    others := guarded.others }

/-- A new window has no client, and on a buffer of its own that knows of none it agrees with it. -/
theorem newest {parts : WindowParts} {p : Presenter} (new : p.IsNew parts)
    (settled : Settled w.host.log)
    (unused : ∀ other : PresenterId, other.index < w.presenters.size →
      (w.presenters.get other).buffer ≠ p.buffer)
    (bare : (w.buffers.get p.buffer).bag.slot? .attachedBar = none) :
    Guarded (w.presenters.add p).1 p.fixed (w.buffers.get p.buffer).bag (w.presenters.size + 1)
      { w with presenters := (w.presenters.add p).2 } := by
  have own : (w.presenters.add p).2.get (w.presenters.add p).1 = p := Store.get_add_self _ _
  exact {
    size := rfl
    opened := Nat.lt_succ_self _
    same := congrArg Presenter.fixed own
    alone := fun other ne given => by
      have old := (Store.eq_or_lt_of_lt_add _ _ given).resolve_left ne
      show ((w.presenters.add p).2.get other).buffer ≠ p.buffer
      rw [Store.get_add_of_lt _ _ old]
      exact unused other old
    settled
    linked := by
      refine .inr ⟨?_, ?_, ?_⟩
      all_goals
        unfold Workspace.desk
        dsimp only
        rw [own, new.client]
      · rw [new.shown]
        rfl
      · exact bare
      · exact fun _ none => nomatch none
    others := fun _ _ => rfl }

end Guarded

/-! ## Runs -/

variable {H : Host η}

/-- Whether an operation works on windows that were opened, and opens none on the buffer. -/
def Operation.Spares (buffer : BufferId) (w : Workspace (Recorded η)) (operation : Operation η) :
    Prop :=
  (∀ h ∈ operation.handles w, w.Knows h) ∧
    ∀ parts scope, operation = .openWindow parts scope → parts.buffer ≠ buffer

theorem Operation.spares_window {buffer : BufferId} {w : Workspace (Recorded η)} {h : Handle}
    (known : w.Knows h) (operation : WindowOperation) :
    (Operation.window (η := η) h operation).Spares buffer w :=
  ⟨fun _ mem => List.mem_singleton.mp mem ▸ known, by rintro _ _ ⟨⟩⟩

/-- Every operation that spares the buffer keeps the invariant. -/
theorem Workspace.upheld_guarded (H : Host η) (id : PresenterId) (fixed : Presenter)
    (bag : BufferBag) :
    Workspace.Upheld H (fun _ => ()) (fun parts => parts.buffer ≠ fixed.buffer) (fun _ _ => True)
      (fun w => ∃ count, Guarded id fixed bag count w) where
  overlooks := H.overlooks_nothing
  aside aside := fun ⟨count, guarded⟩ => ⟨count, guarded.aside aside⟩
  desk operation mine given := fun ⟨count, guarded⟩ =>
    ⟨count, guarded.putDesk (guarded.size ▸ given) (Desk.Stays.leaves H mine operation _)⟩
  opened elsewhere new := fun ⟨count, guarded⟩ =>
    ⟨count + 1, guarded.add (new.buffer ▸ elsewhere)⟩
  changed _ := fun ⟨count, guarded⟩ => ⟨count, guarded.changed _⟩

theorem Guarded.perform {id : PresenterId} {fixed : Presenter} {bag : BufferBag} {count : Nat}
    {w : Workspace (Recorded η)} (guarded : Guarded id fixed bag count w) {operation : Operation η}
    (spares : operation.Spares fixed.buffer w) :
    ∃ count, Guarded id fixed bag count ((operation.perform H).after w) :=
  (Workspace.upheld_guarded H id fixed bag).perform spares.1 spares.2 (fun _ _ => trivial)
    ⟨count, guarded⟩

/-- A window that was opened is the newest one, and has no client. -/
theorem openWindow_ok {parts : WindowParts} {scope : ScopeId}
    {h : Handle} {w w' : Workspace (Recorded η)}
    (opens : Workspace.openWindow (H.recorded none) parts scope w = .ok (.ok h) w') :
    ∃ w₁ p, Workspace.Aside (fun _ => ()) none w w₁ ∧
      w' = { w₁ with presenters := (w₁.presenters.add p).2 } ∧
      h.presenter = (w₁.presenters.add p).1 ∧ p.IsNew parts := by
  have stable : Workspace.Stable (H.recorded none) _ _ (Workspace.Aside (fun _ => ()) none w) :=
    Workspace.stable_aside H.overlooks_nothing w
  obtain ⟨resolved, w₁, resolves, opens⟩ := bind_eq_ok opens
  have aside : Workspace.Aside (fun _ => ()) none w w₁ := after_of_ok resolves ▸
    stable.keeps_resolveOutliner HostCall.isAside_of_isOpening
      (fun _ _ _ _ _ before => before.trans (.quiet rfl rfl rfl)) parts.buffer w (.refl w)
  cases resolved with
  | error cause => cases opens
  | ok outliner =>
    obtain ⟨status, w₂, filters, opens⟩ := bind_eq_ok opens
    have aside : Workspace.Aside (fun _ => ()) none w w₂ := after_of_ok filters ▸
      stable.keeps_attachFilters HostCall.isAside_of_isOpening parts.filters parts.view w₁ aside
    cases status with
    | error failure => cases opens
    | ok _ =>
      obtain ⟨listener, w₃, subscribes, opens⟩ := bind_eq_ok opens
      have aside : Workspace.Aside (fun _ => ()) none w w₃ := after_of_ok subscribes ▸
        stable.keeps_subscribe HostCall.isAside_of_isOpening
          (fun _ before => before.trans (.quiet rfl rfl rfl)) w₂ aside
      cases opens
      have emitted : Workspace.Aside (fun _ => ()) none w₃
          { w₃ with trace := w₃.trace ++ [.created parts.window parts.view] } :=
        .quiet rfl rfl rfl
      refine ⟨_, _, aside.trans emitted, rfl, rfl, ?_⟩
      constructor <;> rfl

theorem guarded_openWindow {parts : WindowParts} {scope : ScopeId} {h : Handle}
    {before opened : Workspace (Recorded η)}
    (unused : ∀ id : PresenterId, id.index < before.presenters.size →
      (before.presenters.get id).buffer ≠ parts.buffer)
    (bare : (before.buffers.get parts.buffer).bag.contains .attachedBar = false)
    (silent : before.host.log = [])
    (opens : Workspace.openWindow (H.recorded none) parts scope before = .ok (.ok h) opened) :
    ∃ fixed count, fixed.buffer = parts.buffer ∧ fixed.factory = parts.factory ∧
      fixed.window = parts.window ∧
      Guarded h.presenter fixed (before.buffers.get parts.buffer).bag count opened := by
  obtain ⟨w, p, aside, rfl, name, new⟩ := openWindow_ok opens
  refine ⟨p.fixed, w.presenters.size + 1, new.buffer, new.factory, new.window, ?_⟩
  rw [name, ← aside.buffers, ← new.buffer]
  refine Guarded.newest new (aside.grows.settled ?_) ?_ ?_
  · rw [silent]
    exact fun _ _ none => nomatch none
  · rw [aside.presenters, new.buffer]
    exact unused
  · rw [aside.buffers, new.buffer]
    unfold Bag.contains at bare
    simpa using bare

/-- Whatever happens after a window was opened on a buffer of its own: the presenter has a
client exactly when it has a shown version and exactly when the buffer has a client, which
is the same one, and no other property of the buffer changes.  This holds unless a client
of the window panicked when the window detached it. -/
theorem attachment_agrees (H : Host η) {parts : WindowParts} {scope : ScopeId} {h : Handle}
    {before opened w : Workspace (Recorded η)}
    (unused : ∀ id : PresenterId, id.index < before.presenters.size →
      (before.presenters.get id).buffer ≠ parts.buffer)
    (bare : (before.buffers.get parts.buffer).bag.contains .attachedBar = false)
    (silent : before.host.log = [])
    (opens : Workspace.openWindow (H.recorded none) parts scope before = .ok (.ok h) opened)
    (reached : Reaches H (fun w operation => operation.Spares parts.buffer w) opened w)
    (uncut : ∀ client, MadeFor h.presenter w.host.log parts.factory parts.window client →
      ¬ CutRelease h.presenter w.host.log client) :
    ((w.presenterOf h).client.isSome ↔ (w.presenterOf h).shown.isSome) ∧
    ((w.presenterOf h).client.isSome ↔
      (w.buffers.get parts.buffer).bag.contains .attachedBar = true) ∧
    (∀ client, (w.presenterOf h).client = some client →
      (w.buffers.get parts.buffer).bag.get? .attachedBar = some client) ∧
    ∀ k, k ≠ .attachedBar → (w.buffers.get parts.buffer).bag.slot? k =
      (before.buffers.get parts.buffer).bag.slot? k := by
  obtain ⟨fixed, count, buffer, factory, window, start⟩ :=
    guarded_openWindow unused bare silent opens
  obtain ⟨count, guarded⟩ := reached.invariant (P := fun w => ∃ count,
      Guarded h.presenter fixed (before.buffers.get parts.buffer).bag count w) ⟨count, start⟩
    fun w operation ⟨count, guarded⟩ spares => guarded.perform (buffer ▸ spares)
  have made : MadeFor h.presenter w.host.log (w.presenterOf h).factory (w.presenterOf h).window =
      MadeFor h.presenter w.host.log parts.factory parts.window := by
    have same : (w.presenterOf h).fixed = fixed := guarded.same
    rw [← factory, ← window, ← same]
    rfl
  have linked :
      Linked h.presenter (w.presenterOf h) (w.buffers.get parts.buffer).bag w.host.log := by
    have desk := guarded.linked
    unfold Desk.LinkedOrCut Workspace.desk at desk
    dsimp only at desk
    rw [guarded.buffer, buffer] at desk
    refine desk.resolve_left ?_
    rintro ⟨client, mine, cut⟩
    exact uncut client (made ▸ mine) cut
  refine ⟨by rw [linked.shown], ?_, ?_, buffer ▸ guarded.others⟩
  · unfold Bag.contains
    rw [linked.property, Option.isSome_map]
  · intro client attached
    unfold Bag.get?
    rw [linked.property, attached]
    simp [Tagged.cast?]

/-- A client that panics when it is sent an outline stays attached everywhere. -/
theorem attachment_agrees_after_panic :
    let H := Host.plain (panic .payload)
    let parts : WindowParts := ⟨⟨1⟩, ⟨0⟩, ⟨0⟩, ⟨0⟩, ⟨0⟩, ⟨0⟩, ⟨0⟩, .host ⟨0⟩⟩
    let h : Handle := ⟨⟨1⟩, ⟨0⟩, ⟨0⟩⟩
    let client := ClientId.foreign 0
    ∃ opened w : Workspace (Recorded Snapshot),
      Workspace.openWindow (H.recorded none) parts ⟨0⟩ { host := ⟨⟨1, "a"⟩, []⟩ } =
        .ok (.ok h) opened ∧
      Reaches H (fun w operation => operation.Spares ⟨0⟩ w) opened w ∧
      (w.presenterOf h).client = some client ∧ (w.presenterOf h).shown = some 2 ∧
      (w.buffers.get ⟨0⟩).bag.get? .attachedBar = some client := by
  intro H parts h client
  let opened := (Workspace.openWindow (H.recorded none) parts ⟨0⟩).after { host := ⟨⟨1, "a"⟩, []⟩ }
  have opens : Workspace.openWindow (H.recorded none) parts ⟨0⟩ { host := ⟨⟨1, "a"⟩, []⟩ } =
      .ok (.ok h) opened := rfl
  have known : ∀ w : Workspace (Recorded Snapshot), 0 < w.presenters.size → w.Knows h :=
    fun _ h => h
  have reached : Reaches H (fun w operation => operation.Spares ⟨0⟩ w) opened opened := .start
  have reached := reached.step (.window h .attach)
    (Operation.spares_window (known opened Nat.zero_lt_one) .attach)
  have reached := reached.step (.outliner ⟨0⟩ (.announce ⟨2, .empty 2 0⟩))
    ⟨by rintro _ ⟨⟩, by rintro _ _ ⟨⟩⟩
  have reached := reached.step (.window h .drain)
    (Operation.spares_window (known _ Nat.zero_lt_one) .drain)
  refine ⟨opened, _, opens, reached, by decide +kernel, by decide +kernel, ?_⟩
  refine (attachment_agrees H (fun _ given => absurd given (Nat.not_lt_zero _)) rfl rfl
    opens reached ?_).2.2.1 client (by decide +kernel)
  -- No client was told to unregister at all.
  exact fun client _ => not_cutRelease (by decide +kernel)

end OutlineBar
