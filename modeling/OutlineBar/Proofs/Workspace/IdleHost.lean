/-
Operations that leave an idle host alone.

Only the start and the end of a session call an idle host.  So what all other calls and the
idle hooks keep is kept by every operation that does not end a session on that idle host.  A
presenter on its desk calls no idle host at all, so predicates on hosts are kept by its work
whichever idle host is meant.
-/
import OutlineBar.Proofs.Presenter.Bound
import OutlineBar.Proofs.Workspace.Stable

namespace OutlineBar

open OutlineBar.Action

variable {η : Type} {H : Host η} {idleHost : IdleHostId} {Q : η → Prop}

/-- Whether a predicate on hosts is kept by all that a host does, except by calls to one idle
host. -/
structure Host.KeptBeside (H : Host η) (idleHost : IdleHostId) (Q : η → Prop) : Prop where
  call : ∀ {call : HostCall}, call.idleHost? ≠ some idleHost → Keeps Q (H.answer call)
  hook : ∀ filters source, Keeps (fun b : Backstage η => Q b.host) (H.onIdle filters source)

/-- Whether the host of a desk satisfies a predicate. -/
def Desk.HostIs (Q : η → Prop) (d : Desk η) : Prop := Q d.host

/-- Whether the host of a workspace satisfies a predicate. -/
def Workspace.HostIs (Q : η → Prop) (w : Workspace η) : Prop := Q w.host

/-- Whether an operation ends a session whose ticks come from an idle host. -/
def Operation.Ends {η : Type} (idleHost : IdleHostId) : Operation η → Prop
  | .session s operation => operation.isEnding = true ∧ s.idle.idleHost = idleHost
  | _ => False

namespace Host.KeptBeside

variable (h : H.KeptBeside idleHost Q)
include h

theorem bound : Desk.Bound H (Desk.HostIs Q) where
  call d call _ busy hd := by
    refine h.call ?_ d.host hd
    rw [busy]
    nofun
  quiet d d' _ _ host hd := by
    unfold Desk.HostIs
    rw [host]
    exact hd
  parse _ _ _ _ hd := hd

open Workspace

theorem stable : Stable H (fun call => call.idleHost? ≠ some idleHost) (fun _ _ => True)
    (HostIs Q) where
  note _ hw := hw
  wake _ hw := hw
  call other hw := h.call other _ hw
  desk {w id operation} _ hw :=
    h.bound.keeps_leaves (fun _ _ _ _ hd => hd) (fun _ _ _ _ hd => hd) operation
      (show Desk.HostIs Q (w.desk id) from hw)

theorem keeps_onIdle (source : IdleSourceId) (filters : FiltersId) :
    Keeps (HostIs Q) (onBackstage (H.onIdle filters source)) :=
  Keeps.zoom fun w hw => h.hook filters source w.toBackstage hw

theorem keeps_window (handle : Handle) (operation : WindowOperation) :
    Keeps (HostIs Q) (operation.perform H handle) := by
  have rolled : Keeps (HostIs Q) (operation.roll handle) :=
    Stable.keeps_roll (fun _ hw => hw) (fun _ hw => hw) operation
  exact fun w hw => h.stable.after_perform operation (fun _ _ => trivial)
    (fun source _ => h.keeps_onIdle source) (rolled w hw)

theorem keeps_openWindow (parts : WindowParts) (scope : ScopeId) :
    Keeps (HostIs Q) (openWindow H parts scope) := by
  have asks {call : HostCall} (opening : call.isOpening = true) :
      call.idleHost? ≠ some idleHost := by
    cases call <;> cases opening <;> nofun
  exact h.stable.keeps_openWindow asks (fun _ _ _ _ _ hw => hw) (fun _ _ hw => hw)
    (fun _ _ _ hw => hw) scope

theorem keeps_tick (round : IdleRound) (source : IdleSourceId) :
    Keeps (HostIs Q) (round.run H source) := by
  have other : (HostCall.mayContinue source).idleHost? ≠ some idleHost := nofun
  exact h.stable.keeps_tick other (h.keeps_onIdle source) round

theorem keeps_session {s : Session} {operation : SessionOperation}
    (spares : operation.isEnding = true → s.idle.idleHost ≠ idleHost) :
    Keeps (HostIs Q) (operation.perform H s) :=
  h.stable.keeps_session operation (fun _ _ _ _ _ _ => trivial) (fun _ hw => hw)
    (fun _ _ hw => hw) (fun source _ => h.keeps_tick s.idle.round source)
    fun ends _ _ own => spares ends (Option.some.inj own)

end Host.KeptBeside

end OutlineBar
