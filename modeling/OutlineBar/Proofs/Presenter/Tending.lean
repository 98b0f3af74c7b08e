/-
What the operations of a presenter do to clients and bars, call by call.

`Tends` lists all that can happen, and an operation is a sequence of such steps.  That is
what `Desk.Leads` says, and each operation has a theorem that it does.  What holds of
clients and of the bar slot is then shown step by step, and the operations are not opened
again.

A step is as long as it has to be.  A client that was made is offered at once, and released
if it is refused; a client that was released has its bar removed.
-/
import Mathlib.Logic.Relation
import OutlineBar.Proofs.Host.Clients
import OutlineBar.Proofs.Presenter.Attachment

namespace OutlineBar

variable {η : Type}

/-- What clients and bars have to do with on a desk. -/
structure Bench (η : Type) where
  /-- The attached client. -/
  client : Option ClientId
  /-- Whether attaching saw to the bar slot and may go on. -/
  cleared : Bool
  host : Recorded η

/-- What can happen on the bench of a presenter. -/
inductive Tends (H : Host η) (caller : Option PresenterId) (p : Presenter) :
    Bench η → Bench η → Prop where
  | aside {client cleared s s'} {call : HostCall} {outcome}
      (called : H.Calls caller call s outcome s') (aside : call.isAside = true) :
      Tends H caller p ⟨client, cleared, s⟩ ⟨client, cleared, s'⟩
  /-- Attaching does not go on. -/
  | stop {client cleared s} : Tends H caller p ⟨client, cleared, s⟩ ⟨client, false, s⟩
  | notAsked {s s' panic} (asked : H.Calls caller (.barSlot p.bars) s (.error panic) s') :
      Tends H caller p ⟨none, false, s⟩ ⟨none, false, s'⟩
  /-- The host shows no bar, or does not say. -/
  | free {s s' answer} (asked : H.Calls caller (.barSlot p.bars) s (.ok answer) s')
      (shows : ∀ slot, answer ≠ .ok (some slot)) :
      Tends H caller p ⟨none, false, s⟩ ⟨none, true, s'⟩
  | clear {s s' s'' slot} (asked : H.Calls caller (.barSlot p.bars) s (.ok (.ok (some slot))) s')
      (removed : H.Calls caller (.removeBar p.bars) s' (.ok (.ok ())) s'') :
      Tends H caller p ⟨none, false, s⟩ ⟨none, true, s''⟩
  /-- The host shows a bar and does not remove it. -/
  | stuck {s s' s'' slot outcome}
      (asked : H.Calls caller (.barSlot p.bars) s (.ok (.ok (some slot))) s')
      (removed : H.Calls caller (.removeBar p.bars) s' outcome s'')
      (fails : outcome ≠ .ok (.ok ())) :
      Tends H caller p ⟨none, false, s⟩ ⟨none, false, s''⟩
  | notMade {s s' outline panic}
      (made : H.Calls caller (.createClient p.factory p.window outline) s (.error panic) s') :
      Tends H caller p ⟨none, true, s⟩ ⟨none, false, s'⟩
  | taken {s s' s'' outline client}
      (made : H.Calls caller (.createClient p.factory p.window outline) s (.ok client) s')
      (offered : H.Calls caller (.addBar p.bars p.priority client) s' (.ok (.ok ())) s'') :
      Tends H caller p ⟨none, true, s⟩ ⟨some client, false, s''⟩
  | refused {s s' s'' s''' outline client failure outcome}
      (made : H.Calls caller (.createClient p.factory p.window outline) s (.ok client) s')
      (offered : H.Calls caller (.addBar p.bars p.priority client) s' (.ok (.error failure)) s'')
      (released : H.Calls caller (.unregisterClient client) s'' outcome s''') :
      Tends H caller p ⟨none, true, s⟩ ⟨none, false, s'''⟩
  /-- The host panics over an offer, and the client is forgotten. -/
  | lost {s s' s'' outline client panic}
      (made : H.Calls caller (.createClient p.factory p.window outline) s (.ok client) s')
      (offered : H.Calls caller (.addBar p.bars p.priority client) s' (.error panic) s'') :
      Tends H caller p ⟨none, true, s⟩ ⟨none, false, s''⟩
  | update {s s' client outline outcome}
      (updated : H.Calls caller (.updateClient client outline) s outcome s') :
      Tends H caller p ⟨some client, false, s⟩ ⟨some client, false, s'⟩
  | release {s s' s'' client outcome}
      (released : H.Calls caller (.unregisterClient client) s (.ok ()) s')
      (removed : H.Calls caller (.removeBar p.bars) s' outcome s'') :
      Tends H caller p ⟨some client, false, s⟩ ⟨none, false, s''⟩
  /-- A client panics when it is released, and its bar is not removed. -/
  | cut {s s' client panic}
      (released : H.Calls caller (.unregisterClient client) s (.error panic) s') :
      Tends H caller p ⟨some client, false, s⟩ ⟨none, false, s'⟩

section
variable {H : Host η} {caller : Option PresenterId} {p : Presenter} {b b' : Bench η}

/-- What a call keeps that goes to no other bar manager than the presenter's is kept by
every step. -/
theorem Tends.keeps {P : Recorded η → Prop} (h : Tends H caller p b b')
    (each : ∀ {call : HostCall} {s outcome s'}, H.Calls caller call s outcome s' →
      call.bars? = none ∨ call.bars? = some p.bars → P s → P s') (before : P b.host) :
    P b'.host := by
  cases h with
  | aside called aside => exact each called (.inl (HostCall.bars?_of_isAside aside)) before
  | stop => exact before
  | notAsked asked => exact each asked (.inr rfl) before
  | free asked => exact each asked (.inr rfl) before
  | clear asked removed => exact each removed (.inr rfl) (each asked (.inr rfl) before)
  | stuck asked removed => exact each removed (.inr rfl) (each asked (.inr rfl) before)
  | notMade made => exact each made (.inl rfl) before
  | taken made offered => exact each offered (.inr rfl) (each made (.inl rfl) before)
  | refused made offered released =>
    exact each released (.inl rfl) (each offered (.inr rfl) (each made (.inl rfl) before))
  | lost made offered => exact each offered (.inr rfl) (each made (.inl rfl) before)
  | update updated => exact each updated (.inl rfl) before
  | release released removed => exact each removed (.inr rfl) (each released (.inl rfl) before)
  | cut released => exact each released (.inl rfl) before

theorem Tends.extends (h : Tends H caller p b b') : Extends caller b.host.log b'.host.log :=
  h.keeps (P := fun s => Extends caller b.host.log s.log)
    (fun called _ grown => grown.trans called.extends) (.refl _)

end

namespace Desk

open OutlineBar.Action

def bench (cleared : Bool) (d : Desk (Recorded η)) : Bench η :=
  ⟨d.presenter.client, cleared, d.host⟩

/-- Whether steps lead from one state of a desk to another. -/
structure Leads (H : Host η) (caller : Option PresenterId) (cleared : Bool)
    (d : Desk (Recorded η)) (cleared' : Bool) (d' : Desk (Recorded η)) : Prop where
  fixed : d'.presenter.fixed = d.presenter.fixed
  steps : Relation.ReflTransGen (Tends H caller d.presenter.fixed) (d.bench cleared)
    (d'.bench cleared')

variable {H : Host η} {caller : Option PresenterId} {k k' k'' : Bool}
  {d d' d'' : Desk (Recorded η)}

namespace Leads

theorem refl (d : Desk (Recorded η)) : Leads H caller k d k d := ⟨rfl, .refl⟩

theorem trans (h : Leads H caller k d k' d') (h' : Leads H caller k' d' k'' d'') :
    Leads H caller k d k'' d'' :=
  ⟨h'.fixed.trans h.fixed, h.steps.trans (h.fixed ▸ h'.steps)⟩

theorem one {client client' : Option ClientId} (before : d.presenter.client = client)
    (after : d'.presenter.client = client') (fixed : d'.presenter.fixed = d.presenter.fixed)
    (step : Tends H caller d.presenter.fixed ⟨client, k, d.host⟩ ⟨client', k', d'.host⟩) :
    Leads H caller k d k' d' := by
  subst before after
  exact ⟨fixed, .single step⟩

/-- A change of neither the client nor the host. -/
theorem quiet (fixed : d'.presenter.fixed = d.presenter.fixed)
    (client : d'.presenter.client = d.presenter.client) (host : d'.host = d.host) :
    Leads H caller k d k d' := by
  refine ⟨fixed, ?_⟩
  unfold bench
  rw [client, host]

theorem stop (h : Leads H caller k d k' d') : Leads H caller k d false d' :=
  h.trans (.one rfl rfl rfl .stop)

theorem call {call : HostCall} {host : Recorded η}
    (made : ((H.recorded caller).answer call).after d.host = host)
    (aside : call.isAside = true) : Leads H caller k d k { d with host } := by
  obtain ⟨outcome, called⟩ := Host.exists_calls H caller call d.host
  exact .one rfl rfl rfl (.aside (made ▸ called) aside)

end Leads

/-- The operations that have to do with neither clients nor bars take no other steps. -/
theorem indifferent_leads (H : Host η) :
    Indifferent (H.recorded caller) (Leads H caller k d k') where
  call _ _ _ made aside h := h.trans (.call made aside)
  views _ view h := by
    refine h.trans ?_
    unfold Presenter.noteView
    split <;> exact .quiet rfl rfl rfl
  outliner _ _ _ _ _ h := h.trans (.quiet rfl rfl rfl)
  note _ _ h := h.trans (.quiet rfl rfl rfl)

/-! ## Operations -/

variable (H)

theorem leads_detach (d : Desk (Recorded η)) :
    Leads H caller false d false ((Desk.detach (H.recorded caller)).after d) := by
  have e := detach_eq (H.recorded caller) d
  cases attached : d.presenter.client with
  | none =>
    rw [attached] at e
    rw [after_of_ok e]
    exact .refl d
  | some client =>
    rw [attached] at e
    dsimp only at e
    cases told : (H.recorded caller).unregisterClient client d.host with
    | error p host =>
      rw [told] at e
      rw [after_of_error e]
      exact .one attached rfl rfl (.cut (Host.calls_error told))
    | ok _ host =>
      rw [told] at e
      dsimp only at e
      cases removed : (H.recorded caller).removeBar d.presenter.bars host with
      | error p host' =>
        rw [removed] at e
        rw [after_of_error e]
        exact .one attached rfl rfl (.release (Host.calls_ok told) (Host.calls_error removed))
      | ok status host' =>
        rw [removed] at e
        rw [after_of_ok e]
        exact .one attached rfl rfl (.release (Host.calls_ok told) (Host.calls_ok removed))

/-- Seeing to the slot.  Attaching goes on if the answer is that all is well. -/
theorem leads_clearSlot {d : Desk (Recorded η)} (none : d.presenter.client = none) :
    Leads H caller false d false ((clearSlot (H.recorded caller)).after d) ∧
      ∀ d', clearSlot (H.recorded caller) d = .ok (.ok ()) d' → Leads H caller false d true d' := by
  have e := clearSlot_eq (H.recorded caller) d
  have ends {status : HostStatus} {d' : Desk (Recorded η)}
      (returns : clearSlot (H.recorded caller) d = .ok status d')
      (leads : Leads H caller false d true d') :
      Leads H caller false d false ((clearSlot (H.recorded caller)).after d) ∧
        ∀ d', clearSlot (H.recorded caller) d = .ok (.ok ()) d' →
          Leads H caller false d true d' := by
    refine ⟨after_of_ok returns ▸ leads.stop, fun d'' goesOn => ?_⟩
    rw [returns] at goesOn
    cases goesOn
    exact leads
  cases asked : (H.recorded caller).barSlot d.presenter.bars d.host with
  | error p host =>
    rw [asked] at e
    refine ⟨after_of_error e ▸ .one none none rfl (.notAsked (Host.calls_error asked)), ?_⟩
    intro d' goesOn
    cases e.symm.trans goesOn
  | ok answer host =>
    rw [asked] at e
    rcases answer with failure | _ | slot
    · exact ends e (.one none none rfl (.free (Host.calls_ok asked) nofun))
    · exact ends e (.one none none rfl (.free (Host.calls_ok asked) nofun))
    · dsimp only at e
      cases removed : (H.recorded caller).removeBar d.presenter.bars host with
      | error p host' =>
        rw [removed] at e
        refine ⟨after_of_error e ▸ .one none none rfl
          (.stuck (Host.calls_ok asked) (Host.calls_error removed) nofun), ?_⟩
        intro d' goesOn
        cases e.symm.trans goesOn
      | ok status host' =>
        rw [removed] at e
        cases status with
        | ok _ =>
          exact ends e (.one none none rfl (.clear (Host.calls_ok asked) (Host.calls_ok removed)))
        | error failure =>
          refine ⟨after_of_ok e ▸ .one none none rfl
            (.stuck (Host.calls_ok asked) (Host.calls_ok removed) nofun), ?_⟩
          intro d' goesOn
          cases e.symm.trans goesOn

/-- What becomes of a client that was made. -/
theorem leads_offer {d : Desk (Recorded η)} (none : d.presenter.client = none) {outline : Outline}
    {client : ClientId} {host : Recorded η}
    (made : H.Calls caller (.createClient d.presenter.factory d.presenter.window outline) d.host
      (.ok client) host) (version : Nat) :
    Leads H caller true d false
      (after (fun d => Desk.offer (H.recorded caller) d client version) { d with host }) := by
  unfold after Desk.offer
  dsimp only
  cases added : (H.recorded caller).addBar d.presenter.bars d.presenter.priority client host with
  | error p host' => exact .one none none rfl (.lost made (Host.calls_error added))
  | ok status host' =>
    cases status with
    | ok _ => exact .one none rfl rfl (.taken made (Host.calls_ok added))
    | error failure =>
      dsimp only
      cases told : (H.recorded caller).unregisterClient client host' with
      | error p host'' =>
        exact .one none none rfl (.refused made (Host.calls_ok added) (Host.calls_error told))
      | ok _ host'' =>
        exact .one none none rfl (.refused made (Host.calls_ok added) (Host.calls_ok told))

theorem leads_offerClient {d : Desk (Recorded η)} (none : d.presenter.client = none) :
    Leads H caller true d false ((offerClient (H.recorded caller)).after d) := by
  have e := offerClient_eq (H.recorded caller) d
  have read : Leads H caller true d true { d with
      host := ((H.recorded caller).snapshot d.presenter.buffer).after d.host } := .call rfl rfl
  cases taken : (H.recorded caller).snapshot d.presenter.buffer d.host with
  | error p host =>
    rw [taken] at e
    rw [after_of_error e]
    rw [after_of_error taken] at read
    exact read.stop
  | ok snapshot host =>
    rw [taken] at e
    dsimp only at e
    rw [after_of_ok taken] at read
    have parsed := (indifferent_leads H).keeps_outlineOf snapshot _ read
    cases outlined : outlineOf (H.recorded caller) snapshot { d with host } with
    | error p d' =>
      rw [outlined] at e
      rw [after_of_error e]
      rw [after_of_error outlined] at parsed
      exact parsed.stop
    | ok outline d' =>
      have unattached : d'.presenter.client = .none := by
        rw [outlineOf_presenter _ outlined]
        exact none
      rw [outlined] at e
      dsimp only at e
      rw [after_of_ok outlined] at parsed
      cases made : (H.recorded caller).createClient d'.presenter.factory d'.presenter.window outline
          d'.host with
      | error p host =>
        rw [made] at e
        rw [after_of_error e]
        exact parsed.trans
          (.one unattached unattached rfl (.notMade (Host.calls_error made)))
      | ok client host =>
        rw [made] at e
        have offered := leads_offer H unattached (Host.calls_ok made) snapshot.version
        unfold after at offered ⊢
        rw [e]
        exact parsed.trans offered

theorem leads_accept (completion : Completion) (d : Desk (Recorded η)) :
    Leads H caller false d false ((accept (H.recorded caller) completion).after d) := by
  have e := accept_eq (H.recorded caller) d completion
  cases attached : d.presenter.client with
  | none =>
    rw [attached] at e
    rw [after_of_ok e]
    exact .quiet rfl rfl rfl
  | some client =>
    rw [attached] at e
    dsimp only at e
    cases stale : d.staleAgainst completion with
    | some shown =>
      rw [stale] at e
      rw [after_of_ok e]
      exact .quiet rfl rfl rfl
    | none =>
      rw [stale] at e
      dsimp only at e
      cases told : (H.recorded caller).updateClient client completion.outline d.host with
      | error p host =>
        rw [told] at e
        rw [after_of_error e]
        exact .one attached attached rfl (.update (Host.calls_error told))
      | ok _ host =>
        rw [told] at e
        rw [after_of_ok e]
        exact .one attached attached rfl (.update (Host.calls_ok told))

theorem leads_attach (d : Desk (Recorded η)) :
    Leads H caller false d false ((attach (H.recorded caller)).after d) := by
  let P (d' : Desk (Recorded η)) : Prop := Leads H caller false d false d'
  have detached : Keeps P (detachPrevious (H.recorded caller)) := by
    refine Keeps.get_bind fun d' h => Keeps.ite (fun _ => ?_) (fun _ => Keeps.pure _) d' h
    refine Keeps.bind (fun d' h => h.trans (leads_detach H d')) fun status => ?_
    cases status with
    | ok _ => exact Keeps.pure _
    | error failure => exact fun d' h => h.trans (.quiet rfl rfl rfl)
  refine Keeps.after_bind (P := P) (detached d (.refl d)) fun _ d₁ detaches h₁ => ?_
  have none : d₁.presenter.client = none := client_of_detachPrevious detaches
  have cleared : P ((clearSlot (H.recorded caller)).after d₁) :=
    h₁.trans (leads_clearSlot H none).1
  refine Keeps.after_bind (P := P) cleared fun status d₂ clears h₂ => ?_
  cases status with
  | error failure => exact h₂
  | ok _ =>
    have unattached : d₂.presenter.client = .none := by
      rw [presenter_of_clearSlot clears]
      exact none
    have goesOn := (leads_clearSlot H none).2 d₂ clears
    exact (h₁.trans goesOn).trans (leads_offerClient H unattached)

theorem leads_drainUpTo (bound : Nat) (d : Desk (Recorded η)) :
    Leads H caller false d false ((drainUpTo (H.recorded caller) bound).after d) := by
  induction bound generalizing d with
  | zero => exact .refl d
  | succ bound ih =>
    have e := drainUpTo_succ (H.recorded caller) d bound
    cases taken : d.outliner.take? d.presenter.listener with
    | none =>
      rw [taken] at e
      rw [after_of_ok e]
      exact .refl d
    | some next =>
      rw [taken] at e
      have took : Leads H caller false d false { d with outliner := next.2 } := .quiet rfl rfl rfl
      unfold after
      rw [e]
      refine Keeps.after_bind (P := Leads H caller false d false)
        (took.trans (leads_accept H next.1 _)) fun _ d' _ h => ?_
      exact (Keeps.bind (fun d' h => h.trans (ih d')) fun _ => Keeps.pure _) d' h

theorem leads_drain (d : Desk (Recorded η)) :
    Leads H caller false d false ((drain (H.recorded caller)).after d) :=
  leads_drainUpTo H _ d

theorem leads_leaves (operation : DeskOperation) (d : Desk (Recorded η)) :
    Leads H caller false d false (operation.leaves (H.recorded caller) d) := by
  have others : Indifferent (H.recorded caller) (Leads H caller false d false) :=
    indifferent_leads H
  cases operation with
  | attach => exact leads_attach H d
  | detach => exact leads_detach H d
  | accept completion => exact leads_accept H completion d
  | drain => exact leads_drain H d
  | requestOutline => exact others.keeps_requestOutline d (.refl d)
  | noteView view => exact others.keeps_noteView view d (.refl d)
  | recordViews => exact others.keeps_recordViews d (.refl d)

end Desk

end OutlineBar
