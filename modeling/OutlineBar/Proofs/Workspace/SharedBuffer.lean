/-
Several windows on one buffer.

The buffer has one place for the client of an attached bar, and its windows do not ask whose
client is in it: a window that attaches puts its own there, and a window that gives up a client
empties it.  `shared_buffer_follows_holder` says what this comes to, for any windows and any
order in which they attach and detach, as long as nothing panics.  The place belongs to the
window that attached last, until any window of the buffer gives up a client; so what is in it
is always the client of an attached window, but it may be empty while a window is attached, as
in `detaching_empties_for_others`.

`Desk.Follows` is the step and `Workspace.Holds` the invariant.
-/
import OutlineBar.Proofs.Action.Each
import OutlineBar.Proofs.Presenter.Outcome
import OutlineBar.Proofs.Session.Opened

namespace OutlineBar

open OutlineBar.Action

variable {η : Type} {H : Host η}

/-! ## One window -/

namespace Desk

/-- What a window that attached or detached leaves of the buffer's client. -/
structure Follows (d d' : Desk η) : Prop where
  buffer : d'.presenter.buffer = d.presenter.buffer
  attached : ∀ client, d'.presenter.client = some client →
    d'.bag.slot? .attachedBar = some ⟨.attachedBar, client⟩
  unattached : d'.presenter.client = none →
    d'.bag.slot? .attachedBar =
      if d.presenter.isAttached then none else d.bag.slot? .attachedBar

variable {d d' : Desk η} {status : HostStatus}

theorem Follows.quiet (none : d.presenter.client = none) (presenter : d'.presenter = d.presenter)
    (bag : d'.bag = d.bag) : Follows d d' where
  buffer := by rw [presenter]
  attached client has := by rw [presenter, none] at has; cases has
  unattached _ := by rw [bag, Presenter.isAttached, none]; rfl

/-- From where a window has no client, things go on as they began. -/
theorem Follows.trans {d₁ : Desk η} (first : Follows d d₁) (none : d₁.presenter.client = none)
    (second : Follows d₁ d') : Follows d d' where
  buffer := second.buffer.trans first.buffer
  attached := second.attached
  unattached gone := by
    have kept := second.unattached gone
    rw [Presenter.isAttached, none] at kept
    exact kept.trans (first.unattached none)

theorem follows_detach (detached : detach H d = .ok status d') : Follows d d' := by
  rw [detach_eq] at detached
  split at detached
  · rename_i none
    cases detached
    exact .quiet none rfl rfl
  · rename_i client has
    split at detached
    · cases detached
    · split at detached <;> cases detached
      refine ⟨rfl, nofun, fun _ => ?_⟩
      rw [Presenter.isAttached, has]
      exact Bag.slot?_remove_self _ _

theorem follows_detachPrevious (detached : detachPrevious H d = .ok () d') : Follows d d' := by
  obtain ⟨read, _, got, detached⟩ := bind_eq_ok detached
  cases got
  dsimp only at detached
  split at detached
  · obtain ⟨status, d₁, detached, noted⟩ := bind_eq_ok detached
    have follows := follows_detach detached
    cases status with
    | ok _ =>
      cases noted
      exact follows
    | error failure =>
      cases noted
      exact ⟨follows.buffer, follows.attached, follows.unattached⟩
  · rename_i unattached
    cases detached
    exact .quiet (by simpa [Presenter.isAttached] using unattached) rfl rfl

theorem bag_of_clearSlot (cleared : clearSlot H d = .ok status d') : d'.bag = d.bag := by
  have kept : Keeps (fun d' : Desk η => d'.bag = d.bag) (clearSlot H) :=
    keeps_clearSlot (fun _ _ h => h) fun _ _ _ _ _ h => h
  rw [← after_of_ok cleared]
  exact kept d rfl

theorem bag_of_outlineOf {snapshot : Snapshot} {outline : Outline}
    (outlined : outlineOf H snapshot d = .ok outline d') : d'.bag = d.bag := by
  rw [outlineOf_eq] at outlined
  split at outlined <;> split at outlined <;> cases outlined <;> rfl

theorem follows_offer {client : ClientId} {version : Nat} (none : d.presenter.client = none)
    (offered : offer H d client version = .ok status d') : Follows d d' := by
  unfold offer at offered
  split at offered
  · cases offered
  · cases offered
    refine ⟨rfl, fun client' has => ?_, nofun⟩
    cases has
    exact Bag.slot?_insert_self _ _ _
  · split at offered <;> cases offered
    exact .quiet none rfl rfl

theorem follows_offerClient (none : d.presenter.client = none)
    (offered : offerClient H d = .ok status d') : Follows d d' := by
  rw [offerClient_eq] at offered
  split at offered
  · cases offered
  · rename_i snapshot host _
    split at offered
    · cases offered
    · rename_i outline d₁ outlined
      have presenter := outlineOf_presenter H outlined
      have bag := bag_of_outlineOf outlined
      split at offered
      · cases offered
      · rename_i client host' _
        have quiet : Follows d { d₁ with host := host' } := .quiet none presenter bag
        have unattached : d₁.presenter.client = .none := presenter ▸ none
        have last : Follows { d₁ with host := host' } d' := follows_offer unattached offered
        exact quiet.trans unattached last

theorem follows_attach (attached : attach H d = .ok status d') : Follows d d' := by
  obtain ⟨_, d₁, detached, attached⟩ := bind_eq_ok attached
  obtain ⟨free, d₂, cleared, attached⟩ := bind_eq_ok attached
  have none := client_of_detachPrevious detached
  have presenter := presenter_of_clearSlot cleared
  have first : Follows d d₂ :=
    (follows_detachPrevious detached).trans none (.quiet none presenter (bag_of_clearSlot cleared))
  cases free with
  | error failure =>
    cases attached
    exact first
  | ok _ =>
    have unattached : d₂.presenter.client = .none := presenter ▸ none
    exact first.trans unattached (follows_offerClient unattached attached)

end Desk

open Workspace

/-- Attaches a window or detaches it. -/
def Handle.switch (H : Host η) (on : Bool) (h : Handle) : Action (Workspace η) HostStatus :=
  if on then h.attach H else h.detach H

variable {buffer : BufferId} {h : Handle} {on : Bool} {w w' : Workspace η}

/-- A window that is attached or detached finds and leaves the properties of its buffer. -/
theorem Handle.follows_switch {status : HostStatus} (done : h.switch H on w = .ok status w') :
    ∃ d, w' = w.putDesk h.presenter d ∧ Desk.Follows (w.desk h.presenter) d := by
  unfold Handle.switch at done
  split at done
  · have attached : onDesk h.presenter (Desk.attach H) w = .ok status w' := done
    obtain ⟨d, attached, same⟩ := zoom_eq_ok attached
    exact ⟨d, same, Desk.follows_attach attached⟩
  · have detached : onDesk h.presenter (Desk.detach H) w = .ok status w' := done
    obtain ⟨d, detached, same⟩ := zoom_eq_ok detached
    exact ⟨d, same, Desk.follows_detach detached⟩

/-! ## Any number of windows -/

namespace Workspace

/-- Attaches and detaches windows, one after the other. -/
def switchEach (H : Host η) (turns : List (Handle × Bool)) :
    Action (Workspace η) (List HostStatus) :=
  turns.mapM fun (h, on) => h.switch H on

/-- The window that holds the place in the buffer after one of its windows led from `w` to
`w'`: this window if it is attached then, nobody if it gave up a client, and else the one that
held it before. -/
def nextHolder (h : Handle) (holder : Option PresenterId) (w w' : Workspace η) :
    Option PresenterId :=
  if (w'.presenterOf h).isAttached then some h.presenter
  else if (w.presenterOf h).isAttached then none
  else holder

/-- The window that holds the place in the buffer after windows were attached and detached. -/
def holder (H : Host η) : Option PresenterId → List (Handle × Bool) → Workspace η →
    Option PresenterId
  | held, [], _ => held
  | held, (h, on) :: rest, w =>
    let w' := (h.switch H on).after w
    holder H (nextHolder h held w w') rest w'

/-- Whether the place in a buffer is held by an attached window, or empty and held by nobody. -/
structure Holds (buffer : BufferId) (held : Option PresenterId) (w : Workspace η) : Prop where
  slot : (w.buffers.get buffer).bag.slot? .attachedBar =
    (held.bind fun id => (w.presenters.get id).client).map (Tagged.mk .attachedBar)
  attached : ∀ id ∈ held, (w.presenters.get id).isAttached = true
  shares : ∀ id ∈ held, (w.presenters.get id).buffer = buffer

variable {held : Option PresenterId}

theorem Holds.switch (holds : Holds buffer held w) (shares : (w.presenterOf h).buffer = buffer)
    {status : HostStatus} (done : h.switch H on w = .ok status w') :
    Holds buffer (nextHolder h held w w') w' := by
  obtain ⟨d, rfl, follows⟩ := Handle.follows_switch done
  have own : (w.putDesk h.presenter d).presenters.get h.presenter = d.presenter :=
    Store.get_set_self _ _ _
  have bag : ((w.putDesk h.presenter d).buffers.get buffer).bag = d.bag := by
    rw [← shares]
    exact congrArg Buffer.bag (Store.get_set_self _ _ _)
  have before : (w.desk h.presenter).bag = (w.buffers.get buffer).bag := by
    rw [← shares]
    rfl
  unfold nextHolder presenterOf
  rw [own]
  cases client : d.presenter.client with
  | some client =>
    have attached : d.presenter.isAttached = true := by rw [Presenter.isAttached, client]; rfl
    rw [if_pos attached]
    refine ⟨?_, ?_, ?_⟩
    · rw [bag, follows.attached _ client, Option.bind_some, own, client]
      rfl
    · rintro _ ⟨⟩
      rwa [own]
    · rintro _ ⟨⟩
      rw [own]
      exact follows.buffer.trans shares
  | none =>
    have unattached : d.presenter.isAttached = false := by rw [Presenter.isAttached, client]; rfl
    have slot := follows.unattached client
    rw [unattached, if_neg Bool.false_ne_true]
    by_cases gave : (w.presenters.get h.presenter).isAttached = true
    · rw [if_pos gave]
      refine ⟨?_, fun id none => absurd none (Option.not_mem_none id),
        fun id none => absurd none (Option.not_mem_none id)⟩
      rw [bag, slot]
      exact if_pos gave
    · -- The holder is attached, so it is another window.
      have other {id : PresenterId} (holder : id ∈ held) :
          (w.putDesk h.presenter d).presenters.get id = w.presenters.get id := by
        refine Store.get_set_of_ne _ _ ?_
        rintro rfl
        exact gave (holds.attached _ holder)
      rw [if_neg gave]
      refine ⟨?_, fun id holder => ?_, fun id holder => ?_⟩
      · rw [bag, slot, before]
        refine (if_neg gave).trans (holds.slot.trans ?_)
        cases held with
        | none => rfl
        | some id => rw [Option.bind_some, Option.bind_some, other rfl]
      · rw [other holder]
        exact holds.attached id holder
      · rw [other holder]
        exact holds.shares id holder

theorem Holds.switchEach {turns : List (Handle × Bool)} (holds : Holds buffer held w)
    (share : ∀ turn ∈ turns, (w.presenterOf turn.1).buffer = buffer) {statuses : List HostStatus}
    (done : switchEach H turns w = .ok statuses w') :
    Holds buffer (w.holder H held turns) w' := by
  induction turns generalizing w held statuses with
  | nil =>
    cases done
    exact holds
  | cons turn rest ih =>
    obtain ⟨h, on⟩ := turn
    obtain ⟨status, more, w₁, rfl, switched, others⟩ := mapM_cons_eq_ok done
    have next := holds.switch (share _ List.mem_cons_self) switched
    obtain ⟨d, same, follows⟩ := Handle.follows_switch switched
    have buffers (id : PresenterId) :
        (w₁.presenters.get id).buffer = (w.presenters.get id).buffer := by
      rw [same]
      exact w.presenters.map_get_set Presenter.buffer follows.buffer id
    unfold holder
    rw [after_of_ok switched]
    refine ih next (fun turn mem => ?_) others
    exact (buffers _).trans (share turn (List.mem_cons_of_mem _ mem))

end Workspace

/-- Windows that share a buffer are attached and detached in any order, and nothing panics.  The
client that the buffer has is that of the window that attached last, if it is attached still and
no window of the buffer gave up a client since, and otherwise the buffer has none.  So the client
that it has is always the client of an attached window. -/
theorem shared_buffer_follows_holder (H : Host η) {buffer : BufferId}
    {turns : List (Handle × Bool)} {w w' : Workspace η} {statuses : List HostStatus}
    (share : ∀ turn ∈ turns, (w.presenterOf turn.1).buffer = buffer)
    (bare : (w.buffers.get buffer).bag.contains .attachedBar = false)
    (done : switchEach H turns w = .ok statuses w') :
    let held := w.holder H none turns
    let bag := (w'.buffers.get buffer).bag
    bag.get? .attachedBar = (held.bind fun id => (w'.presenters.get id).client) ∧
    (bag.contains .attachedBar = true ↔ held.isSome = true) ∧
    ∀ id ∈ held,
      (w'.presenters.get id).isAttached = true ∧ (w'.presenters.get id).buffer = buffer := by
  intro held bag
  have start : Holds buffer none w := by
    refine ⟨?_, nofun, nofun⟩
    unfold Bag.contains at bare
    simpa using bare
  have holds : Holds buffer held w' := start.switchEach share done
  have slot : bag.slot? .attachedBar =
    (held.bind fun id => (w'.presenters.get id).client).map (Tagged.mk .attachedBar) := holds.slot
  refine ⟨?_, ?_, fun id mem => ⟨holds.attached id mem, holds.shares id mem⟩⟩
  · unfold Bag.get?
    rw [slot]
    cases held.bind fun id => (w'.presenters.get id).client with
    | none => rfl
    | some client => simp [Tagged.cast?]
  · unfold Bag.contains
    rw [slot, Option.isSome_map]
    cases isHeld : held with
    | none => rfl
    | some id =>
      have attached : (w'.presenters.get id).client.isSome = true := holds.attached id isHeld
      simp [attached]

/-! ## Two windows on one buffer -/

open Slotted in
theorem shared_buffer_follows_holder_of_two :
    let second := handle 2 1
    ∃ statuses w',
      switchEach obliging [(handle 1 0, true), (second, true)]
          (opened obliging {} [parts 1 0 0, parts 2 0 1]) = .ok statuses w' ∧
        (w'.buffers.get ⟨0⟩).bag.get? .attachedBar = (w'.presenterOf second).client ∧
        (w'.presenterOf second).isAttached = true := by
  have done : switchEach obliging [(handle 1 0, true), (handle 2 1, true)]
      (opened obliging {} [parts 1 0 0, parts 2 0 1]) = .ok _ _ := rfl
  have share : ∀ turn ∈ [(handle 1 0, true), (handle 2 1, true)],
      ((opened obliging {} [parts 1 0 0, parts 2 0 1]).presenterOf turn.1).buffer = ⟨0⟩ := by decide
  obtain ⟨client, -, attached⟩ := shared_buffer_follows_holder obliging share (by decide) done
  exact ⟨_, _, done, client, (attached ⟨1⟩ rfl).1⟩

open Slotted in
/-- Two windows are attached, and the buffer has no client any more once one of them is
detached. -/
theorem detaching_empties_for_others :
    let turns := [(handle 1 0, true), (handle 2 1, true), (handle 1 0, false)]
    let w := (switchEach obliging turns).after (opened obliging {} [parts 1 0 0, parts 2 0 1])
    (w.presenterOf (handle 2 1)).isAttached = true ∧
      (w.buffers.get ⟨0⟩).bag.contains .attachedBar = false := by
  decide +kernel

end OutlineBar
