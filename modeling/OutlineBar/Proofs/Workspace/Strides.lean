/-
Operations stride by stride.

What windows and sessions do is made of two kinds of strides: what a presenter does on its desk,
and changes beside desks, which touch neither presenters nor outliners nor buffers and ask no
outliner for anything.  `Strides` shows this for every operation at once: a predicate that is
kept by both kinds is kept by all operations of windows and sessions.  Openings of windows, moves
of outliners and changes of the host are strides of their own, so every run is a run of strides,
and each stride says which presenter made it.
-/
import OutlineBar.Proofs.Presenter.Bound
import OutlineBar.Proofs.Workspace.Stable

namespace OutlineBar

open OutlineBar.Action

variable {η : Type} {H : Host η}

namespace Workspace

/-- A change of neither presenters nor outliners nor buffers, and calls that have nothing to do
with outliners. -/
structure Beside (w w' : Workspace (Recorded η)) : Prop where
  presenters : w'.presenters = w.presenters
  outliners : w'.outliners = w.outliners
  buffers : w'.buffers = w.buffers
  log : ∃ more, w'.host.log = w.host.log ++ more ∧ ∀ r ∈ more, r.call.AsksOnly none

namespace Beside

variable {w w' : Workspace (Recorded η)}

theorem quiet (presenters : w'.presenters = w.presenters) (outliners : w'.outliners = w.outliners)
    (buffers : w'.buffers = w.buffers) (log : w'.host.log = w.host.log) : Beside w w' :=
  ⟨presenters, outliners, buffers, [], by rw [log, List.append_nil], nofun⟩

theorem call (H : Host η) (caller : Option PresenterId) {call : HostCall}
    (elsewhere : call.AsksOnly none) (w : Workspace (Recorded η)) :
    Beside w { w with host := ((H.recorded caller).answer call).after w.host } := by
  obtain ⟨outcome, called⟩ := Host.exists_calls H caller call w.host
  refine ⟨rfl, rfl, rfl, _, called.logged, fun r mem => ?_⟩
  rw [List.mem_singleton.mp mem]
  exact elsewhere

end Beside

/-- A predicate on workspaces that every stride of a caller keeps, a window or a session. -/
structure Strides (H : Host η) (caller : Option PresenterId) (P : Workspace (Recorded η) → Prop) :
    Prop where
  desk : ∀ {w id} operation, id.Allows caller → P w →
    P (w.putDesk id (DeskOperation.leaves (H.recorded caller) (w.desk id) operation))
  beside : ∀ {w w'}, P w → Beside w w' → P w'

namespace Strides

variable {P : Workspace (Recorded η) → Prop} {caller : Option PresenterId}

theorem stable (h : Strides H caller P) : Stable (H.recorded caller)
    (fun call => call.AsksOnly none) (fun id _ => id.Allows caller) P where
  note _ hw := h.beside hw (.quiet rfl rfl rfl rfl)
  wake _ hw := h.beside hw (.quiet rfl rfl rfl rfl)
  call elsewhere hw := h.beside hw (.call H caller elsewhere _)
  desk mine hw := h.desk _ mine hw

/-- The hook of a recorded host runs on the host inside, so it makes no calls on record. -/
theorem keeps_onIdle (h : Strides H caller P) (source : IdleSourceId) (filters : FiltersId) :
    Keeps P (onBackstage ((H.recorded caller).onIdle filters source)) := by
  refine Keeps.zoom fun w hw => h.beside hw (.quiet rfl rfl rfl ?_)
  show (((H.recorded caller).onIdle filters source).after w.toBackstage).host.log = _
  unfold Host.recorded
  rw [after_zoom]

theorem keeps_window (h : Strides H caller P) {handle : Handle}
    (mine : handle.presenter.Allows caller) (operation : WindowOperation) :
    Keeps P (operation.perform (H.recorded caller) handle) := by
  have rolled : Keeps P (operation.roll handle) :=
    Stable.keeps_roll (fun _ hw => h.beside hw (.quiet rfl rfl rfl rfl))
      (fun _ hw => h.beside hw (.quiet rfl rfl rfl rfl)) operation
  exact fun w hw => h.stable.after_perform operation (fun _ _ => mine)
    (fun source _ => h.keeps_onIdle source) (rolled w hw)

theorem keeps_session (h : Strides H none P) (s : Session) (operation : SessionOperation) :
    Keeps P (operation.perform (H.recorded none) s) :=
  h.stable.keeps_session operation (fun _ _ _ _ _ _ => .inr rfl)
    (fun _ hw => h.beside hw (.quiet rfl rfl rfl rfl))
    (fun _ _ hw => h.beside hw (.quiet rfl rfl rfl rfl))
    (fun source _ => h.stable.keeps_tick trivial (h.keeps_onIdle source) _)
    fun _ _ _ => trivial

end Strides

end Workspace

/-! ## Runs of strides -/

/-- Whether an operation is a stride of its own: it opens a window, or is made by neither
a window nor a session. -/
def Operation.isWhole : Operation η → Bool
  | .window .. | .session .. => false
  | _ => true

end OutlineBar
