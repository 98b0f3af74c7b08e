/-
A window and its host agree on what is in the bar slot.

Take a host with one slot for the bars of a manager, and a window that is the only one to
use that manager.  Any call may fail or panic, and as long as the window has no client, the
host may put bars of somebody else into the slot.  `slot_agrees` says that the slot holds
the client of the window whenever there is one; that otherwise it is empty, or holds such a
bar or a client that the window released; that a window which detaches its client removes
no other bar; and that a client is offered to a slot that is taken only after the host
failed to tell what is in it.

`SlotAgrees` is the invariant, for each step that a window takes on its desk.
-/
import OutlineBar.Proofs.Host.Slotted
import OutlineBar.Proofs.Presenter.Tending

namespace OutlineBar

open OutlineBar.Action

variable {η : Type} {H : Host η} {caller : Option PresenterId}

/-! ## Calls to the bar manager -/

namespace HostRecord

/-- Whether the host was asked for its bar and showed one. -/
def ShowsBar (bars : BarManagerId) (r : HostRecord η) : Prop :=
  ∃ caller before slot, r = ⟨caller, before, .barSlot bars, .ok (.ok (some slot))⟩

/-- Whether the host was asked for its bar and failed. -/
def FailsToShow (bars : BarManagerId) (r : HostRecord η) : Prop :=
  ∃ caller before failure, r = ⟨caller, before, .barSlot bars, .ok (.error failure)⟩

/-- Whether a bar is removed for a reason: the host just showed it, or it is a client of the
window that was just released. -/
def RemovesRightly (slot : η → Option ClientId) (id : PresenterId) (p : Presenter)
    (past : List (HostRecord η)) (r : HostRecord η) : Prop :=
  r.call = .removeBar p.bars →
    (∃ q, past.getLast? = some q ∧ q.ShowsBar p.bars) ∨
    ∃ q client, past.getLast? = some q ∧ q.released? = some client ∧
      slot r.before = some client ∧ MadeFor id past p.factory p.window client

/-- Whether a client is offered to an empty slot, or else after the host failed to show what
is in the slot. -/
def OffersRightly (slot : η → Option ClientId) (bars : BarManagerId)
    (past : List (HostRecord η)) (r : HostRecord η) : Prop :=
  ∀ priority client, r.call = .addBar bars priority client →
    slot r.before = none ∨ ∃ q ∈ past, q.FailsToShow bars

/-- Whether a call treats the slot as it may. -/
structure Fits (slot : η → Option ClientId) (id : PresenterId) (p : Presenter)
    (past : List (HostRecord η)) (r : HostRecord η) : Prop where
  removal : r.RemovesRightly slot id p past
  offer : r.OffersRightly slot p.bars past

theorem fits_elsewhere {slot : η → Option ClientId} {id : PresenterId} {p : Presenter}
    {past : List (HostRecord η)} {r : HostRecord η} (other : r.call.bars? ≠ some p.bars) :
    r.Fits slot id p past where
  removal removes := absurd (congrArg HostCall.bars? removes) other
  offer _ _ offers := absurd (congrArg HostCall.bars? offers) other

end HostRecord

/-! ## The invariant -/

/-- What a window without a client leaves in the slot: nothing, a bar of somebody else, or a
client of its own that it released. -/
def Leftover (foreign : ClientId → Prop) (id : PresenterId) (p : Presenter)
    (log : List (HostRecord η)) (slot : Option ClientId) : Prop :=
  ∀ bar, slot = some bar →
    foreign bar ∨ (MadeFor id log p.factory p.window bar ∧ bar ∈ releasedIn log)

/-- Whether the slot agrees with the desk of a window that was opened as `p`. -/
structure SlotAgrees (slot : η → Option ClientId) (foreign : ClientId → Prop) (id : PresenterId)
    (p : Presenter) (b : Bench η) : Prop where
  attached : ∀ client, b.client = some client →
    slot b.host.host = some client ∧ MadeFor id b.host.log p.factory p.window client
  unattached : b.client = none → Leftover foreign id p b.host.log (slot b.host.host)
  cleared : b.cleared = true →
    slot b.host.host = none ∨ ∃ q ∈ b.host.log, q.FailsToShow p.bars
  fits : Throughout (HostRecord.Fits slot id p) b.host.log

namespace SlotAgrees

variable {slot : η → Option ClientId} {foreign : ClientId → Prop} {id : PresenterId}
  {p : Presenter} {client : Option ClientId} {cleared : Bool} {s s' s'' : Recorded η}

/-- Calls that leave the slot as it is. -/
theorem mono (h : SlotAgrees slot foreign id p ⟨client, cleared, s⟩)
    (grown : Extends caller s.log s'.log) (same : slot s'.host = slot s.host)
    (fits : Throughout (HostRecord.Fits slot id p) s'.log) :
    SlotAgrees slot foreign id p ⟨client, cleared, s'⟩ where
  attached client has := by
    obtain ⟨shown, made⟩ := h.attached client has
    exact ⟨same.trans shown, made.mono grown⟩
  unattached none bar shown := by
    refine (h.unattached none bar (same ▸ shown)).imp_right ?_
    rintro ⟨made, released⟩
    refine ⟨made.mono grown, ?_⟩
    obtain ⟨more, log, -⟩ := grown
    show bar ∈ releasedIn s'.log
    unfold releasedIn
    rw [log, List.filterMap_append]
    exact List.mem_append_left _ released
  cleared yes := by
    refine (h.cleared yes).imp same.trans ?_
    rintro ⟨q, mem, fails⟩
    exact ⟨q, grown.mem mem, fails⟩
  fits := fits

theorem stop (h : SlotAgrees slot foreign id p ⟨client, cleared, s⟩) :
    SlotAgrees slot foreign id p ⟨client, false, s⟩ :=
  ⟨h.attached, h.unattached, nofun, h.fits⟩

/-! ### Steps -/

variable (one : H.OneSlot p.bars slot)
include one

/-- A call that goes to no bar manager, or to another one. -/
theorem elsewhere (h : SlotAgrees slot foreign id p ⟨client, cleared, s⟩) {call : HostCall}
    {outcome : Except Panic call.Answer} (called : H.Calls caller call s outcome s')
    (other : call.bars? ≠ some p.bars) : SlotAgrees slot foreign id p ⟨client, cleared, s'⟩ :=
  h.mono called.extends (one.slot_elsewhere called other)
    (called.throughout h.fits (HostRecord.fits_elsewhere other))

theorem asked (h : SlotAgrees slot foreign id p ⟨client, cleared, s⟩)
    {outcome : Except Panic (Except HostFailure (Option BarSlotId))}
    (asked : H.Calls caller (.barSlot p.bars) s outcome s') :
    SlotAgrees slot foreign id p ⟨client, cleared, s'⟩ :=
  h.mono asked.extends (one.slot_asked asked) (asked.throughout h.fits ⟨nofun, nofun⟩)

/-- Seeing to the slot is done if the host says that it is empty, or does not say. -/
theorem free (h : SlotAgrees slot foreign id p ⟨client, cleared, s⟩)
    {answer : Except HostFailure (Option BarSlotId)}
    (asked : H.Calls caller (.barSlot p.bars) s (.ok answer) s')
    (shows : ∀ slot, answer ≠ .ok (some slot)) :
    SlotAgrees slot foreign id p ⟨client, true, s'⟩ := by
  obtain ⟨attached, unattached, -, fits⟩ := h.asked one asked
  refine ⟨attached, unattached, fun _ => ?_, fits⟩
  -- A failure is in the log now, and that there is no bar is true if the host says so.
  rcases answer with failure | _ | shown
  · refine .inr ⟨_, asked.logged ▸ List.mem_append_right _ List.mem_cons_self, ?_⟩
    exact ⟨_, _, failure, rfl⟩
  · have empty := one.shows asked.answered
    exact .inl ((one.slot_asked asked).trans (by simpa using empty.symm))
  · exact absurd rfl (shows shown)

theorem removed (h : SlotAgrees slot foreign id p ⟨none, cleared, s⟩)
    {outcome : Except Panic HostStatus}
    (removed : H.Calls caller (.removeBar p.bars) s outcome s')
    (rightly : HostRecord.RemovesRightly slot id p s.log
      ⟨caller, s.host, .removeBar p.bars, outcome⟩) :
    SlotAgrees slot foreign id p ⟨none, false, s'⟩ := by
  have fits := removed.throughout h.fits ⟨rightly, nofun⟩
  rcases one.slot_removeBar removed with empty | same
  · refine ⟨nofun, fun _ bar shown => ?_, nofun, fits⟩
    cases empty.symm.trans shown
  · exact (h.mono removed.extends same fits).stop

/-- The bar that the host just showed is asked to be removed. -/
theorem removedShown (h : SlotAgrees slot foreign id p ⟨none, cleared, s⟩) {shown : BarSlotId}
    {outcome : Except Panic HostStatus}
    (asked : H.Calls caller (.barSlot p.bars) s (.ok (.ok (some shown))) s')
    (removed : H.Calls caller (.removeBar p.bars) s' outcome s'') :
    SlotAgrees slot foreign id p ⟨none, false, s''⟩ := by
  have last := asked.getLast?
  exact (h.asked one asked).removed one removed fun _ => .inl ⟨_, last, _, _, shown, rfl⟩

/-- A window forgets its client and tells it to unregister. -/
theorem release {client : ClientId} (h : SlotAgrees slot foreign id p ⟨some client, false, s⟩)
    {outcome : Except Panic Unit}
    (released : H.Calls caller (.unregisterClient client) s outcome s') :
    SlotAgrees slot foreign id p ⟨none, false, s'⟩ := by
  have next := h.elsewhere one released nofun
  refine ⟨nofun, fun _ bar shown => .inr ?_, nofun, next.fits⟩
  obtain ⟨holds, made⟩ := next.attached client rfl
  cases holds.symm.trans shown
  refine ⟨made, ?_⟩
  have told : releasedIn s'.log = releasedIn s.log ++ [client] := released.filterMap_eq _
  show client ∈ releasedIn s'.log
  rw [told]
  exact List.mem_append_right _ List.mem_cons_self

/-- The bar of a client that was just released is asked to be removed. -/
theorem removedReleased {client : ClientId}
    (h : SlotAgrees slot foreign id p ⟨some client, false, s⟩)
    {outcome : Except Panic Unit} {outcome' : Except Panic HostStatus}
    (released : H.Calls caller (.unregisterClient client) s outcome s')
    (removed : H.Calls caller (.removeBar p.bars) s' outcome' s'') :
    SlotAgrees slot foreign id p ⟨none, false, s''⟩ := by
  obtain ⟨holds, made⟩ := (h.elsewhere one released nofun).attached client rfl
  have last := released.getLast?
  exact (h.release one released).removed one removed fun _ =>
    .inr ⟨_, client, last, rfl, holds, made⟩

theorem take {client : ClientId} (h : SlotAgrees slot foreign id p ⟨none, true, s⟩)
    (own : MadeFor id s.log p.factory p.window client)
    (offered : H.Calls caller (.addBar p.bars p.priority client) s (.ok (.ok ())) s') :
    SlotAgrees slot foreign id p ⟨some client, false, s'⟩ where
  attached := by
    rintro _ ⟨⟩
    exact ⟨(one.taken offered.answered).2, own.mono offered.extends⟩
  unattached := nofun
  cleared := nofun
  fits := offered.throughout h.fits ⟨nofun, fun _ _ _ => h.cleared rfl⟩

theorem refuse {client : ClientId} (h : SlotAgrees slot foreign id p ⟨none, true, s⟩)
    {outcome : Except Panic HostStatus}
    (offered : H.Calls caller (.addBar p.bars p.priority client) s outcome s')
    (fails : outcome ≠ .ok (.ok ())) : SlotAgrees slot foreign id p ⟨none, false, s'⟩ :=
  (h.mono offered.extends (one.slot_notTaken offered fails)
    (offered.throughout h.fits ⟨nofun, fun _ _ _ => h.cleared rfl⟩)).stop

/-- Every step of the window keeps the agreement. -/
theorem step {b b' : Bench η} (h : SlotAgrees slot foreign id p b) (mine : id.Allows caller)
    (tends : Tends H caller p b b') : SlotAgrees slot foreign id p b' := by
  cases tends with
  | aside called aside =>
    refine h.elsewhere one called ?_
    rw [HostCall.bars?_of_isAside aside]
    nofun
  | stop => exact h.stop
  | notAsked asked => exact h.asked one asked
  | free asked shows => exact h.free one asked shows
  | clear asked removed =>
    have emptied := h.removedShown one asked removed
    exact { emptied with cleared := fun _ => .inl (one.removed removed.answered) }
  | stuck asked removed => exact h.removedShown one asked removed
  | notMade made => exact (h.elsewhere one made nofun).stop
  | taken made offered =>
    exact (h.elsewhere one made nofun).take one (made.madeFor mine) offered
  | refused made offered released =>
    have refused := (h.elsewhere one made nofun).refuse one offered nofun
    exact refused.elsewhere one released nofun
  | lost made offered => exact (h.elsewhere one made nofun).refuse one offered nofun
  | update updated => exact h.elsewhere one updated nofun
  | release released removed => exact h.removedReleased one released removed
  | cut released => exact h.release one released

/-- What all steps of an operation of the window keep. -/
theorem run {b b' : Bench η} (h : SlotAgrees slot foreign id p b) (mine : id.Allows caller)
    (steps : Relation.ReflTransGen (Tends H caller p) b b') : SlotAgrees slot foreign id p b' := by
  induction steps with
  | refl => exact h
  | tail _ tends ih => exact ih.step one mine tends

/-- What a window does that uses another bar manager. -/
theorem runElsewhere (h : SlotAgrees slot foreign id p ⟨client, cleared, s⟩) {p' : Presenter}
    (other : p'.bars ≠ p.bars) {b b' : Bench η} (start : b.host = s)
    (steps : Relation.ReflTransGen (Tends H caller p') b b') :
    SlotAgrees slot foreign id p ⟨client, cleared, b'.host⟩ := by
  induction steps with
  | refl => exact start ▸ h
  | tail _ tends ih =>
    -- Its calls go to its own bar manager or to none, so the slot does not notice them.
    refine tends.keeps (P := fun s => SlotAgrees slot foreign id p ⟨client, cleared, s⟩) ?_ ih
    intro call s outcome s' called goes h
    refine h.elsewhere one called ?_
    rcases goes with nowhere | elsewhere
    · rw [nowhere]
      nofun
    · rw [elsewhere]
      exact fun same => other (Option.some.inj same)

end SlotAgrees

/-! ## Workspaces -/

namespace Workspace

/-- What clients and bars have to do with on the desk of a window. -/
def bench (w : Workspace (Recorded η)) (id : PresenterId) : Bench η :=
  ⟨(w.presenters.get id).client, false, w.host⟩

/-- Whether the slot agrees with the window that was opened as `p`, and no other window uses
its bar manager. -/
structure HasSlot (slot : η → Option ClientId) (foreign : ClientId → Prop) (id : PresenterId)
    (p : Presenter) (w : Workspace (Recorded η)) : Prop where
  opened : id.index < w.presenters.size
  same : (w.presenters.get id).fixed = p
  alone : ∀ other, other ≠ id → other.index < w.presenters.size →
    (w.presenters.get other).bars ≠ p.bars
  agrees : SlotAgrees slot foreign id p (w.bench id)

/-- Whether a change that the host makes by itself is about something else than the slot, or
puts a bar of somebody else into the slot of a window without a client. -/
def SparesSlot (slot : η → Option ClientId) (foreign : ClientId → Prop) (id : PresenterId)
    (w : Workspace (Recorded η)) (change : η → η) : Prop :=
  slot (change w.host.host) = slot w.host.host ∨
    (w.presenters.get id).client = none ∧
      ∀ bar, slot (change w.host.host) = some bar → foreign bar

namespace HasSlot

variable {slot : η → Option ClientId} {foreign : ClientId → Prop} {id : PresenterId}
  {p : Presenter} {w w' : Workspace (Recorded η)}

theorem aside (h : HasSlot slot foreign id p w) (aside : Aside slot caller w w') :
    HasSlot slot foreign id p w' := by
  obtain ⟨more, log, own⟩ := aside.log
  refine ⟨?_, ?_, ?_, ?_⟩
  · rw [aside.presenters]
    exact h.opened
  · rw [aside.presenters]
    exact h.same
  · rw [aside.presenters]
    exact h.alone
  · have fits : Throughout (HostRecord.Fits slot id p) w'.host.log := by
      rw [log]
      refine Throughout.append h.agrees.fits fun past r mem => HostRecord.fits_elsewhere ?_
      rw [HostCall.bars?_of_isAside (own r mem).2]
      nofun
    have agrees := h.agrees.mono aside.grown aside.seen fits
    unfold bench
    rw [aside.presenters]
    exact agrees

theorem changed (h : HasSlot slot foreign id p w) {change : η → η}
    (spares : SparesSlot slot foreign id w change) :
    HasSlot slot foreign id p { w with host := { w.host with host := change w.host.host } } := by
  refine ⟨h.opened, h.same, h.alone, ?_⟩
  rcases spares with same | ⟨none, others⟩
  · have grown : Extends .none w.host.log w.host.log := .refl _
    exact h.agrees.mono grown same h.agrees.fits
  · refine ⟨fun client has => ?_, fun _ bar shown => .inl (others bar shown), nofun, h.agrees.fits⟩
    cases none.symm.trans has

/-- What the window does on its desk. -/
theorem putOwn (one : H.OneSlot p.bars slot) (h : HasSlot slot foreign id p w)
    (mine : id.Allows caller) {d : Desk (Recorded η)}
    (leads : Desk.Leads H caller false (w.desk id) false d) :
    HasSlot slot foreign id p (w.putDesk id d) := by
  have presenter : (w.putDesk id d).presenters.get id = d.presenter := Store.get_set_self _ _ _
  refine ⟨h.opened, ?_, fun other ne given => ?_, ?_⟩
  · rw [presenter]
    exact leads.fixed.trans h.same
  · show ((w.presenters.set id d.presenter).get other).bars ≠ p.bars
    rw [Store.get_set_of_ne _ _ ne]
    exact h.alone other ne given
  · unfold bench
    rw [presenter]
    exact h.agrees.run one mine (h.same ▸ leads.steps)

/-- What another window does on its desk. -/
theorem putOther (one : H.OneSlot p.bars slot) (h : HasSlot slot foreign id p w)
    {other : PresenterId} (ne : other ≠ id) (given : other.index < w.presenters.size)
    {d : Desk (Recorded η)} (leads : Desk.Leads H caller false (w.desk other) false d) :
    HasSlot slot foreign id p (w.putDesk other d) := by
  have presenter : (w.putDesk other d).presenters.get id = w.presenters.get id :=
    Store.get_set_of_ne _ _ ne.symm
  refine ⟨h.opened, ?_, fun third ne' given' => ?_, ?_⟩
  · rw [presenter]
    exact h.same
  · show ((w.presenters.set other d.presenter).get third).bars ≠ p.bars
    rw [w.presenters.map_get_set Presenter.bars (bars_of_fixed leads.fixed)]
    exact h.alone third ne' given'
  · have apart : (w.desk other).presenter.fixed.bars ≠ p.bars := h.alone other ne given
    unfold bench
    rw [presenter]
    exact h.agrees.runElsewhere one apart rfl leads.steps

theorem putDesk (one : H.OneSlot p.bars slot) (h : HasSlot slot foreign id p w)
    {other : PresenterId} (mine : other.Allows caller) (given : other.index < w.presenters.size)
    {d : Desk (Recorded η)} (leads : Desk.Leads H caller false (w.desk other) false d) :
    HasSlot slot foreign id p (w.putDesk other d) := by
  by_cases e : other = id
  · subst e
    exact h.putOwn one mine leads
  · exact h.putOther one e given leads

/-- A new window with another bar manager. -/
theorem add (h : HasSlot slot foreign id p w) {p' : Presenter} (elsewhere : p'.bars ≠ p.bars) :
    HasSlot slot foreign id p { w with presenters := (w.presenters.add p').2 } := by
  have kept : (w.presenters.add p').2.get id = w.presenters.get id :=
    Store.get_add_of_lt _ _ h.opened
  refine ⟨Nat.lt_succ_of_lt h.opened, ?_, fun other ne given => ?_, ?_⟩
  · show ((w.presenters.add p').2.get id).fixed = p
    rw [kept]
    exact h.same
  · show ((w.presenters.add p').2.get other).bars ≠ p.bars
    rcases Store.eq_or_lt_of_lt_add _ p' given with new | old
    · rw [new, Store.get_add_self]
      exact elsewhere
    · rw [Store.get_add_of_lt _ _ old]
      exact h.alone other ne old
  · unfold bench
    dsimp only
    rw [kept]
    exact h.agrees

end HasSlot

theorem upheld_hasSlot {slot : η → Option ClientId} {p : Presenter} (one : H.OneSlot p.bars slot)
    (foreign : ClientId → Prop) (id : PresenterId) :
    Upheld H slot (fun parts => parts.bars ≠ p.bars) (SparesSlot slot foreign id)
      (HasSlot slot foreign id p) where
  overlooks := one.overlooks
  aside aside h := h.aside aside
  desk operation mine given h := h.putDesk one mine given (Desk.leads_leaves H operation _)
  opened elsewhere new h := h.add (new.bars ▸ elsewhere)
  changed spares h := h.changed spares

end Workspace

/-! ## Runs -/

/-- Whether an operation works on windows that were opened, opens none with the bar manager
of the window, and leaves the slot alone if it is something that the host does by itself. -/
structure Operation.SparesSlot (slot : η → Option ClientId) (foreign : ClientId → Prop)
    (id : PresenterId) (w : Workspace (Recorded η)) (operation : Operation η) : Prop where
  known : ∀ h ∈ operation.handles w, w.Knows h
  elsewhere : ∀ parts scope, operation = .openWindow parts scope →
    parts.bars ≠ (w.presenters.get id).bars
  change : ∀ change, operation = .host change → w.SparesSlot slot foreign id change

theorem Operation.sparesSlot_window {slot : η → Option ClientId} {foreign : ClientId → Prop}
    {id : PresenterId} {w : Workspace (Recorded η)} {h : Handle} (known : w.Knows h)
    (operation : WindowOperation) :
    (Operation.window h operation).SparesSlot slot foreign id w :=
  ⟨fun _ mem => List.mem_singleton.mp mem ▸ known, nofun, nofun⟩

theorem Operation.SparesSlot.perform {slot : η → Option ClientId} {foreign : ClientId → Prop}
    {id : PresenterId} {p : Presenter} {w : Workspace (Recorded η)} {operation : Operation η}
    (spares : operation.SparesSlot slot foreign id w) (one : H.OneSlot p.bars slot)
    (h : w.HasSlot slot foreign id p) :
    ((operation.perform H).after w).HasSlot slot foreign id p := by
  have bars : (w.presenters.get id).fixed.bars = p.bars := congrArg Presenter.bars h.same
  refine (Workspace.upheld_hasSlot one foreign id).perform spares.known ?_ spares.change h
  exact fun parts scope opens => bars ▸ spares.elsewhere parts scope opens

/-- Whatever is done with a window whose bar manager has one slot that no other window uses,
and whichever calls fail or panic:

While the window has a client, the slot holds it.  While it has none, the slot is empty, or
holds a bar that somebody else put there or a client of the window that was told to
unregister.  A bar is removed only if the host just showed it, or if it is the client that
the window just told to unregister; so a window that detaches leaves a bar there that is
none of its own.  A client is offered to a slot that is taken only after the host failed to
show what is in it. -/
theorem slot_agrees (H : Host η) {slot : η → Option ClientId} {foreign : ClientId → Prop}
    {id : PresenterId} {p : Presenter} {start w : Workspace (Recorded η)}
    (one : H.OneSlot p.bars slot) (opened : id.index < start.presenters.size)
    (window : start.presenters.get id = p) (detached : p.client = none)
    (alone : ∀ other, other ≠ id → other.index < start.presenters.size →
      (start.presenters.get other).bars ≠ p.bars)
    (occupied : ∀ bar, slot start.host.host = some bar → foreign bar)
    (silent : start.host.log = [])
    (reached : Reaches H (Operation.SparesSlot slot foreign id) start w) :
    let client := (w.presenters.get id).client
    let own := fun log => MadeFor (η := η) id log p.factory p.window
    (∀ attached, client = some attached → slot w.host.host = some attached) ∧
    (client = none → ∀ bar, slot w.host.host = some bar →
      foreign bar ∨ own w.host.log bar ∧ bar ∈ releasedIn w.host.log) ∧
    Throughout (fun past r => r.call = .removeBar p.bars →
      (∃ q, past.getLast? = some q ∧ q.ShowsBar p.bars) ∨
      ∃ q released, past.getLast? = some q ∧ q.released? = some released ∧
        slot r.before = some released ∧ own past released) w.host.log ∧
    (∀ caller bar, slot w.host.host = some bar → ¬ own w.host.log bar →
      slot ((Desk.detach (H.recorded caller)).after (w.desk id)).host.host = some bar) ∧
    Throughout (fun past r => ∀ priority offered, r.call = .addBar p.bars priority offered →
      slot r.before = none ∨ ∃ q ∈ past, q.FailsToShow p.bars) w.host.log := by
  have base : start.HasSlot slot foreign id p.fixed := by
    subst window
    refine ⟨opened, rfl, alone, fun client has => ?_, fun _ bar shown => .inl (occupied bar shown),
      nofun, ?_⟩
    · cases detached.symm.trans has
    · show Throughout _ start.host.log
      rw [silent]
      exact .nil
  obtain ⟨-, -, -, agrees⟩ := reached.invariant base
    fun w operation h spares => spares.perform one h
  refine ⟨?_, ?_, ?_, ?_, ?_⟩
  · exact fun client has => (agrees.attached client has).1
  · exact agrees.unattached
  · exact fun past r future split => (agrees.fits past r future split).removal
  · intro caller bar shown other
    -- A client of the window would be in the slot, and the bar there is none of the window's.
    have unattached : (w.desk id).presenter.client = none := by
      rw [Option.eq_none_iff_forall_ne_some]
      intro client has
      obtain ⟨holds, made⟩ := agrees.attached client has
      cases holds.symm.trans shown
      exact other made
    have e := Desk.detach_eq (H.recorded caller) (w.desk id)
    rw [unattached] at e
    rw [after_of_ok e]
    exact shown
  · exact fun past r future split => (agrees.fits past r future split).offer

/-- A window takes the place of a foreign bar, and the host does not remove its bar when it
detaches. -/
theorem slot_agrees_after_failure :
    let H := Host.slotted fun n => n != 1
    let p : Presenter := ⟨⟨1⟩, ⟨0⟩, ⟨0⟩, ⟨0⟩, ⟨0⟩, ⟨0⟩, ⟨0⟩, ⟨0⟩, none, none, [], 0⟩
    let start : Workspace (Recorded Slotted) :=
      { host := ⟨{ slot := fun _ => some (.foreign 7) }, []⟩, presenters := ⟨1, fun _ => p⟩ }
    ∃ w, Reaches H (Operation.SparesSlot (·.slot ⟨0⟩) (· = .foreign 7) ⟨0⟩) start w ∧
      (w.presenters.get ⟨0⟩).client = none ∧
      w.host.host.slot ⟨0⟩ = some (.made ⟨0⟩ 0) ∧ .made ⟨0⟩ 0 ∈ releasedIn w.host.log := by
  intro H p start
  let h : Handle := ⟨⟨1⟩, ⟨0⟩, ⟨0⟩⟩
  have known : ∀ w : Workspace (Recorded Slotted), 0 < w.presenters.size → w.Knows h :=
    fun _ h => h
  have reached : Reaches H (Operation.SparesSlot (·.slot ⟨0⟩) (· = .foreign 7) ⟨0⟩) start start :=
    .start
  have reached := reached.step (.window h .attach)
    (Operation.sparesSlot_window (known start Nat.zero_lt_one) .attach)
  have reached := reached.step (.window h .detach)
    (Operation.sparesSlot_window (known _ Nat.zero_lt_one) .detach)
  refine ⟨_, reached, by decide +kernel, by decide +kernel, ?_⟩
  have alone : ∀ other : PresenterId, other ≠ ⟨0⟩ → other.index < 1 → p.bars ≠ p.bars :=
    fun other ne given => absurd (congrArg Ref.mk (Nat.lt_one_iff.mp given)) ne
  have occupied : ∀ bar, start.host.host.slot ⟨0⟩ = some bar → bar = .foreign 7 :=
    fun _ shown => (Option.some.inj shown).symm
  have leftover := (slot_agrees H (p := p) (Host.slotted_oneSlot _ _) Nat.zero_lt_one rfl rfl alone
    occupied rfl reached).2.1
  have bar := leftover (by decide +kernel) (.made ⟨0⟩ 0) (by decide +kernel)
  exact (bar.resolve_left nofun).2

end OutlineBar
