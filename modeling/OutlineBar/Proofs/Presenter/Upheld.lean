/-
What the operations of a presenter keep.

Attaching and draining are made of smaller operations: events, calls that concern the bar
that is there, detaching, offering a new client, and accepting one completion after the
other.  A predicate on desks that is `Upheld` by these is kept by both.

The operations that have to do with neither clients nor bars keep every predicate that is
`Indifferent` to what they do.
-/
import OutlineBar.Proofs.Action.Keeps
import OutlineBar.Proofs.Host.Clients
import OutlineBar.Proofs.Host.Handed
import OutlineBar.Proofs.Presenter.Steps

namespace OutlineBar

/-- What a window does on the desk of its presenter. -/
inductive DeskOperation where
  | attach
  | detach
  | accept (completion : Completion)
  | drain
  | requestOutline
  | noteView (view : ViewId)
  | recordViews

/-- The desk that an operation leaves. -/
def DeskOperation.leaves {η : Type} (H : Host η) (d : Desk η) : DeskOperation → Desk η
  | attach => (Desk.attach H).after d
  | detach => (Desk.detach H).after d
  | accept completion => (Desk.accept H completion).after d
  | drain => (Desk.drain H).after d
  | requestOutline => (Desk.requestOutline H).after d
  | noteView view => (Desk.updatePresenter (·.noteView view)).after d
  | recordViews => (Desk.recordViews H).after d

/-- Whether a call offers a client to the host. -/
def HostCall.isOffer : HostCall → Bool
  | .addBar .. => true
  | _ => false

/-- Whether a call neither makes a client nor offers one, nor hands it an outline. -/
def HostCall.Harmless (call : HostCall) : Prop := call.handed? = none ∧ call.isOffer = false

theorem HostCall.isOffer_of_isAside {call : HostCall} (aside : call.isAside = true) :
    call.isOffer = false := by
  cases call <;> first | rfl | cases aside

namespace Desk

open OutlineBar.Action

variable {η : Type} {H : Host η} {P : Desk η → Prop}

/-- A predicate on desks that the parts of attaching and draining keep. -/
structure Upheld (H : Host η) (P : Desk η → Prop) : Prop where
  note : ∀ d trace, P d → P { d with trace }
  call : ∀ d {call : HostCall} {host}, (H.answer call).after d.host = host → call.Harmless → P d →
    P { d with host }
  detach : ∀ d, P d → P ((detach H).after d)
  offer : ∀ d, d.presenter.client = none → P d → P ((offerClient H).after d)
  accept : ∀ d {completion outliner},
    d.outliner.take? d.presenter.listener = some (completion, outliner) → P d →
    P ((accept H completion).after { d with outliner })

/-- Detaching is kept if forgetting the client and releasing it are. -/
theorem after_detach
    (call : ∀ d {call : HostCall} {host}, (H.answer call).after d.host = host → call.Harmless →
      P d → P { d with host })
    (forget : ∀ d, P d → P { d with presenter := { d.presenter with client := none } })
    (release : ∀ d, P d → P (d.released d.host)) (d : Desk η) (h : P d) :
    P ((Desk.detach H).after d) := by
  have e := detach_eq H d
  cases attached : d.presenter.client with
  | none =>
    rw [attached] at e
    rw [after_of_ok e]
    exact h
  | some client =>
    rw [attached] at e
    dsimp only at e
    cases told : H.unregisterClient client d.host with
    | error p host =>
      rw [told] at e
      rw [after_of_error e]
      exact forget _ (call d (after_of_error told) ⟨rfl, rfl⟩ h)
    | ok _ host =>
      have kept := call d (after_of_ok told) ⟨rfl, rfl⟩ h
      rw [told] at e
      dsimp only at e
      cases removed : H.removeBar d.presenter.bars host with
      | error p host' =>
        rw [removed] at e
        rw [after_of_error e]
        exact release { d with host := host' }
          (call { d with host } (after_of_error removed) ⟨rfl, rfl⟩ kept)
      | ok status host' =>
        rw [removed] at e
        rw [after_of_ok e]
        exact release { d with host := host' }
          (call { d with host } (after_of_ok removed) ⟨rfl, rfl⟩ kept)

/-- Clearing the slot makes calls and leaves the rest alone. -/
theorem keeps_clearSlot (note : ∀ d trace, P d → P { d with trace })
    (call : ∀ d {call : HostCall} {host}, (H.answer call).after d.host = host → call.Harmless →
      P d → P { d with host }) : Keeps P (clearSlot H) := by
  have asked {call' : HostCall} (harmless : call'.Harmless) : Keeps P (onHost (H.answer call')) :=
    Keeps.zoom fun d hd => call d rfl harmless hd
  refine Keeps.get_bind fun d hd => ?_
  refine (Keeps.bind (asked ⟨rfl, rfl⟩) fun slot => ?_) d hd
  split
  · refine Keeps.bind (asked ⟨rfl, rfl⟩) fun status => ?_
    cases status with
    | ok _ => exact Keeps.pure _
    | error failure => exact Keeps.bind (fun d hd => note d _ hd) fun _ => Keeps.pure _
  · exact Keeps.pure _

theorem presenter_of_clearSlot {d d' : Desk η} {status : HostStatus}
    (h : clearSlot H d = .ok status d') : d'.presenter = d.presenter := by
  have kept : Keeps (fun d' : Desk η => d'.presenter = d.presenter) (clearSlot H) :=
    keeps_clearSlot (fun _ _ h => h) fun _ _ _ _ _ h => h
  rw [← after_of_ok h]
  exact kept d rfl

theorem client_of_detach {d d' : Desk η} {status : HostStatus}
    (h : Desk.detach H d = .ok status d') : d'.presenter.client = none := by
  rw [detach_eq] at h
  split at h
  · cases h
    assumption
  · split at h
    · cases h
    · split at h <;> cases h
      rfl

theorem client_of_detachPrevious {d d' : Desk η} (h : detachPrevious H d = .ok () d') :
    d'.presenter.client = none := by
  obtain ⟨read, _, got, h⟩ := bind_eq_ok h
  cases got
  dsimp only at h
  split at h
  · obtain ⟨status, d₁, detached, h⟩ := bind_eq_ok h
    have none := client_of_detach detached
    cases status <;> cases h <;> exact none
  · rename_i unattached
    cases h
    simpa [Presenter.isAttached] using unattached

namespace Upheld

variable (h : Upheld H P)
include h

theorem keeps_detachPrevious : Keeps P (detachPrevious H) := by
  refine Keeps.get_bind fun d hd => Keeps.ite (fun _ => ?_) (fun _ => Keeps.pure _) d hd
  refine Keeps.bind h.detach fun status => ?_
  cases status with
  | ok _ => exact Keeps.pure _
  | error failure => exact fun d hd => h.note d _ hd

theorem keeps_attach : Keeps P (attach H) := by
  intro d hd
  refine Keeps.after_bind (h.keeps_detachPrevious d hd) fun _ d₁ detached hd₁ => ?_
  refine Keeps.after_bind (keeps_clearSlot h.note h.call d₁ hd₁) fun status d₂ cleared hd₂ => ?_
  cases status with
  | error failure => exact hd₂
  | ok _ =>
    have none : d₂.presenter.client = none := by
      rw [presenter_of_clearSlot cleared]
      exact client_of_detachPrevious detached
    exact h.offer d₂ none hd₂

theorem keeps_drainUpTo (bound : Nat) : Keeps P (drainUpTo H bound) := by
  induction bound with
  | zero => exact Keeps.pure _
  | succ bound ih =>
    intro d hd
    have e := drainUpTo_succ H d bound
    cases taken : d.outliner.take? d.presenter.listener with
    | none =>
      rw [taken] at e
      rw [after_of_ok e]
      exact hd
    | some next =>
      rw [taken] at e
      -- `P` need not hold between taking a completion and accepting it.
      have accepted := h.accept d taken hd
      unfold after at accepted ⊢
      rw [e]
      dsimp only
      rw [bind_apply]
      cases told : Desk.accept H next.1 { d with outliner := next.2 } with
      | error p d' =>
        rw [told] at accepted
        exact accepted
      | ok taken d' =>
        rw [told] at accepted
        exact (Keeps.bind ih fun _ => Keeps.pure _) d' accepted

theorem keeps_drain : Keeps P (drain H) :=
  Keeps.get_bind fun d hd => h.keeps_drainUpTo _ d hd

end Upheld

/-- A predicate on desks that is about neither views nor requests nor events, and that calls
about other things than clients and bars keep. -/
structure Indifferent (H : Host η) (P : Desk η → Prop) : Prop where
  call : ∀ d {call : HostCall} {host}, (H.answer call).after d.host = host → call.isAside = true →
    P d → P { d with host }
  views : ∀ d view, P d → P { d with presenter := d.presenter.noteView view }
  outliner : ∀ d {service : Service} next, d.outliner = .background service →
    next.grammar = service.grammar → P d → P { d with outliner := .background next }
  note : ∀ d trace, P d → P { d with trace }

namespace Indifferent

variable (h : Indifferent H P)
include h

theorem keeps_call {call : HostCall} (aside : call.isAside = true) :
    Keeps P (onHost (H.answer call)) := Keeps.zoom fun d hd => h.call d rfl aside hd

theorem keeps_outlineOf (snapshot : Snapshot) : Keeps P (outlineOf H snapshot) := by
  refine Keeps.get_bind fun d hd => ?_
  cases own : d.outliner with
  | hosted _ => exact h.keeps_call rfl d hd
  | background service =>
    have parsed := h.outliner d (service.parseNow snapshot).2 own rfl hd
    exact Keeps.after_bind parsed fun _ d' _ hd' => Keeps.ofExcept _ d' hd'

theorem keeps_requestOutline : Keeps P (requestOutline H) := by
  refine Keeps.get_bind fun d hd => ?_
  refine Keeps.bind (h.keeps_call rfl) (fun snapshot => ?_) d hd
  refine Keeps.get_bind fun d hd => ?_
  cases own : d.outliner with
  | hosted _ => exact h.keeps_call rfl d hd
  | background service =>
    have requested := h.outliner d (service.request snapshot) own rfl hd
    exact h.note { d with outliner := .background (service.request snapshot) } _ requested

theorem keeps_noteView (view : ViewId) : Keeps P (updatePresenter (·.noteView view)) :=
  Keeps.modify fun d hd => h.views d view hd

theorem keeps_recordViews : Keeps P (recordViews H) := by
  refine Keeps.get_bind fun d hd => ?_
  refine (Keeps.bind (h.keeps_call rfl) fun answer => ?_) d hd
  cases answer
  case' ok view => refine Keeps.bind (h.keeps_noteView view) fun _ => ?_
  -- Whatever the first answer was, the second view is asked for next.
  all_goals
    refine Keeps.bind (h.keeps_call rfl) fun answer => ?_
    cases answer with
    | ok view => exact h.keeps_noteView view
    | error failure => exact Keeps.pure _

end Indifferent

end Desk

end OutlineBar
