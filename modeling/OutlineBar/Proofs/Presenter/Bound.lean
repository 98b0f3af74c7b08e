/-
What a presenter does with its outliner.

The operations of a presenter ask for outlines, blocking or in the background, and take
completions from one queue.  A predicate on desks that is `Bound` knows which outliner is
asked: calls to the host about outliners go to the presenter's own one, and a service is changed
by parses, by requests and by what the presenter takes from its queue.  Each operation is gone
through once, so that `keeps_leaves` needs no more than that of any predicate.

`KeepsTo` is the first such predicate.  It says that none of this reaches another outliner or
changes who listens.
-/
import OutlineBar.Proofs.Outliner.Use
import OutlineBar.Proofs.Presenter.Attachment
import OutlineBar.Proofs.Service.Delivery

namespace OutlineBar

open OutlineBar.Action

/-- Whether a call either has nothing to do with outliners, or asks the given one for an
outline. -/
def HostCall.AsksOnly (outliner : Option OutlinerId) : HostCall → Prop
  | .parse asked _ | .requestParse asked _ => outliner = some asked
  | .resolve .. | .subscribe _ => False
  | _ => True

namespace Desk

variable {η : Type} {H : Host η} {P : Desk η → Prop}

/-- A predicate on desks that is kept by all that a presenter does, parses by its outliner
included, except by requests and by taking completions. -/
structure Bound (H : Host η) (P : Desk η → Prop) : Prop where
  call : ∀ d (call : HostCall), call.AsksOnly (some d.presenter.outliner) →
    call.idleHost? = none → P d → P { d with host := (H.answer call).after d.host }
  quiet : ∀ d d' : Desk η, d'.presenter.fixed = d.presenter.fixed → d'.outliner = d.outliner →
    d'.host = d.host → P d → P d'
  parse : ∀ d {service : Service} snapshot, d.outliner = .background service → P d →
    P { d with outliner := .background (service.parseNow snapshot).2 }

namespace Bound

variable (h : Bound H P)
include h

theorem keeps_call (call : HostCall) (elsewhere : call.AsksOnly none)
    (busy : call.idleHost? = none) : Keeps P (onHost (H.answer call)) := by
  refine Keeps.zoom fun d hd => h.call d call ?_ busy hd
  cases call <;> trivial

theorem keeps_emit (event : Event) : Keeps P (emit event) :=
  Keeps.modify fun d hd => h.quiet d _ rfl rfl rfl hd

theorem keeps_updatePresenter {change : Presenter → Presenter}
    (same : ∀ p, (change p).fixed = p.fixed) : Keeps P (updatePresenter change) :=
  Keeps.modify fun d hd => h.quiet d _ (same d.presenter) rfl rfl hd

theorem keeps_noteView (view : ViewId) : Keeps P (updatePresenter (·.noteView view)) := by
  refine h.keeps_updatePresenter fun p => ?_
  unfold Presenter.noteView
  split <;> rfl

theorem keeps_detach : Keeps P (Desk.detach H) := by
  refine Keeps.get_bind fun d hd => ?_
  dsimp only
  split
  · exact hd
  · rename_i client attached
    refine Keeps.bind (fun d hd => h.quiet d _ rfl rfl rfl hd) (fun _ => ?_) d hd
    refine Keeps.bind (h.keeps_call (.unregisterClient client) trivial rfl) fun _ => ?_
    refine Keeps.bind (h.keeps_updatePresenter fun _ => rfl) fun _ => ?_
    refine Keeps.bind (Keeps.modify fun d hd => h.quiet d _ rfl rfl rfl hd) fun _ => ?_
    refine Keeps.bind (h.keeps_emit _) fun _ => ?_
    exact h.keeps_call (.removeBar d.presenter.bars) trivial rfl

theorem keeps_detachPrevious : Keeps P (detachPrevious H) := by
  refine Keeps.get_bind fun d hd => Keeps.ite (fun _ => ?_) (fun _ => Keeps.pure _) d hd
  refine Keeps.bind h.keeps_detach fun status => ?_
  cases status with
  | ok _ => exact Keeps.pure _
  | error failure => exact h.keeps_emit _

theorem keeps_clearSlot : Keeps P (clearSlot H) := by
  refine Keeps.get_bind fun d hd => ?_
  refine (Keeps.bind (h.keeps_call (.barSlot d.presenter.bars) trivial rfl)
    fun slot => ?_) d hd
  split
  · refine Keeps.bind (h.keeps_call (.removeBar d.presenter.bars) trivial rfl)
      fun status => ?_
    cases status with
    | ok _ => exact Keeps.pure _
    | error failure => exact Keeps.bind (h.keeps_emit _) fun _ => Keeps.pure _
  · exact Keeps.pure _

theorem keeps_outlineOf (snapshot : Snapshot) : Keeps P (outlineOf H snapshot) := by
  refine Keeps.get_bind fun d hd => ?_
  cases own : d.outliner with
  | hosted broadcast =>
    dsimp only [onHost]
    rw [after_zoom]
    exact h.call d (.parse d.presenter.outliner snapshot) rfl rfl hd
  | background service =>
    have parsed := h.parse d snapshot own hd
    exact Keeps.after_bind parsed fun _ d' _ hd' => Keeps.ofExcept _ d' hd'

theorem keeps_offerClient : Keeps P (offerClient H) := by
  refine Keeps.get_bind fun d hd => ?_
  refine (Keeps.bind (h.keeps_call (.snapshot d.presenter.buffer) trivial rfl)
    fun snapshot => ?_) d hd
  refine Keeps.bind (h.keeps_outlineOf snapshot) fun outline => ?_
  refine Keeps.bind (h.keeps_call
    (.createClient d.presenter.factory d.presenter.window outline) trivial rfl) fun client => ?_
  refine Keeps.bind (h.keeps_call
    (.addBar d.presenter.bars d.presenter.priority client) trivial rfl) fun status => ?_
  cases status with
  | ok _ =>
    refine Keeps.bind (Keeps.modify fun d hd => h.quiet d _ rfl rfl rfl hd) fun _ => ?_
    refine Keeps.bind (h.keeps_updatePresenter fun _ => rfl) fun _ => ?_
    exact Keeps.bind (h.keeps_emit _) fun _ => Keeps.pure _
  | error failure =>
    refine Keeps.bind (h.keeps_call (.unregisterClient client) trivial rfl) fun _ => ?_
    exact Keeps.bind (h.keeps_emit _) fun _ => Keeps.pure _

theorem keeps_attach : Keeps P (attach H) := by
  refine Keeps.bind h.keeps_detachPrevious fun _ => Keeps.bind h.keeps_clearSlot fun status => ?_
  cases status with
  | ok _ => exact h.keeps_offerClient
  | error failure => exact Keeps.pure _

theorem keeps_accept (completion : Completion) : Keeps P (accept H completion) := by
  refine Keeps.get_bind fun d hd => ?_
  dsimp only
  split
  · exact (Keeps.bind (h.keeps_emit _) fun _ => Keeps.pure _) d hd
  · rename_i client attached
    split
    · exact (Keeps.bind (h.keeps_emit _) fun _ => Keeps.pure _) d hd
    · refine Keeps.bind (fun d hd => h.quiet d _ rfl rfl rfl hd) (fun _ => ?_) d hd
      exact Keeps.bind (h.keeps_call (.updateClient client completion.outline) trivial rfl)
        fun _ => Keeps.pure _

theorem keeps_recordViews : Keeps P (recordViews H) := by
  refine Keeps.get_bind fun d hd => ?_
  refine (Keeps.bind (h.keeps_call (.primaryView d.presenter.shell) trivial rfl)
    fun answer => ?_) d hd
  cases answer
  case' ok view => refine Keeps.bind (h.keeps_noteView view) fun _ => ?_
  -- Whatever the first answer was, the second view is asked for next.
  all_goals
    refine Keeps.bind (h.keeps_call (.secondaryView d.presenter.shell) trivial rfl)
      fun answer => ?_
    cases answer with
    | ok view => exact h.keeps_noteView view
    | error failure => exact Keeps.pure _

theorem keeps_drain
    (take : ∀ d {completion outliner},
      d.outliner.take? d.presenter.listener = some (completion, outliner) → P d →
      P { d with outliner }) : Keeps P (Desk.drain H) := by
  have upTo (bound : Nat) : Keeps P (drainUpTo H bound) := by
    induction bound with
    | zero => exact Keeps.pure _
    | succ bound ih =>
      intro d hd
      have e := drainUpTo_succ H d bound
      unfold after
      rw [e]
      cases taken : d.outliner.take? d.presenter.listener with
      | none => exact hd
      | some next =>
        have left := take d taken hd
        exact (Keeps.bind (h.keeps_accept next.1) fun _ => Keeps.bind ih fun _ => Keeps.pure _)
          { d with outliner := next.2 } left
  exact Keeps.get_bind fun d hd => upTo _ d hd

theorem keeps_requestOutline
    (request : ∀ d {service : Service} snapshot, d.outliner = .background service → P d →
      P { d with outliner := .background (service.request snapshot) }) :
    Keeps P (Desk.requestOutline H) := by
  intro d hd
  have read : P { d with host := (H.snapshot d.presenter.buffer).after d.host } :=
    h.call d _ trivial rfl hd
  have e := requestOutline_eq H d
  cases taken : H.snapshot d.presenter.buffer d.host with
  | error p host =>
    rw [taken] at e
    rw [after_of_error e, ← after_of_error taken]
    exact read
  | ok snapshot host =>
    rw [taken] at e
    rw [after_of_ok taken] at read
    cases own : d.outliner with
    | hosted broadcast =>
      have told : P { d with host := (H.requestParse d.presenter.outliner snapshot).after host } :=
        h.call { d with host } _ rfl rfl read
      rw [own] at e told
      dsimp only at e
      cases requested : H.requestParse d.presenter.outliner snapshot host with
      | error p host' =>
        rw [requested] at e
        rw [after_of_error e, ← after_of_error requested]
        exact told
      | ok _ host' =>
        rw [requested] at e
        rw [after_of_ok e, ← after_of_ok requested]
        exact told
    | background service =>
      rw [own] at e
      rw [after_of_ok e]
      exact h.quiet { d with outliner := .background (service.request snapshot), host } _ rfl rfl
        rfl (request { d with host } snapshot own read)

theorem keeps_leaves
    (request : ∀ d {service : Service} snapshot, d.outliner = .background service → P d →
      P { d with outliner := .background (service.request snapshot) })
    (take : ∀ d {completion outliner},
      d.outliner.take? d.presenter.listener = some (completion, outliner) → P d →
      P { d with outliner })
    (operation : DeskOperation) {d : Desk η} (hd : P d) : P (operation.leaves H d) := by
  cases operation with
  | attach => exact h.keeps_attach d hd
  | detach => exact h.keeps_detach d hd
  | accept completion => exact h.keeps_accept completion d hd
  | drain => exact h.keeps_drain take d hd
  | requestOutline => exact h.keeps_requestOutline request d hd
  | noteView view => exact h.keeps_noteView view d hd
  | recordViews => exact h.keeps_recordViews d hd

end Bound

end Desk

/-! ## The outliner of a presenter -/

theorem Outliner.openNames_take {o o' : Outliner} {id : ListenerId} {completion : Completion}
    (taken : o.take? id = some (completion, o')) :
    o'.broadcast.openNames = o.broadcast.openNames := by
  obtain ⟨⟨next, b⟩, result, e⟩ := Option.map_eq_some_iff.mp taken
  cases e
  rw [broadcast_withBroadcast]
  exact Broadcast.openNames_take result

end OutlineBar
