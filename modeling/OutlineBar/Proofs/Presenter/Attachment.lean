/-
What a presenter and its buffer say about the attached client.

A presenter keeps its client and the version it shows, and its buffer keeps the client
under `attachedBar`.  `Linked` says that the three agree.  Attaching and detaching write
them at different moments, and a panic in between could leave them apart.  There is one
call for which it does: when a client is detached, it is forgotten first, then told to
unregister, and a panic of that call leaves the version and the property behind.
`CutRelease` recognises this call in the log of the host.

`Stays` is what every operation of a presenter keeps, and each operation has a theorem
that says so.
-/
import OutlineBar.Proofs.Presenter.Upheld

namespace OutlineBar

variable {η : Type} {id : PresenterId} {caller : Option PresenterId}

/-! ## Clients in the log -/

/-- Whether a call was an offer of the client that the host refused. -/
def HostRecord.Refuses (client : ClientId) (r : HostRecord η) : Prop :=
  ∃ caller before bars priority failure,
    r = ⟨caller, before, .addBar bars priority client, .ok (.error failure)⟩

/-- Whether a call can have been made for a presenter: it was not made by an operation of
another one. -/
def PresenterId.Allows (id : PresenterId) (caller : Option PresenterId) : Prop :=
  caller = some id ∨ caller = none

/-- Whether a factory made the client for a window of the presenter. -/
def MadeFor (id : PresenterId) (log : List (HostRecord η)) (factory : FactoryId)
    (window : WindowId) (client : ClientId) : Prop :=
  ∃ caller before outline, id.Allows caller ∧
    ⟨caller, before, .createClient factory window outline, .ok client⟩ ∈ log

/-- Whether the client panicked when it was told to unregister because the presenter
detached it.  A client is also told to unregister right after the host refused it, and
that is no detaching. -/
def CutRelease (id : PresenterId) (log : List (HostRecord η)) (client : ClientId) : Prop :=
  ∃ past caller before p future, id.Allows caller ∧
    log = past ++ ⟨caller, before, .unregisterClient client, .error p⟩ :: future ∧
      ∀ r, past.getLast? = some r → ¬ r.Refuses client

/-- Whether the last call was not a refused offer, which a release has to follow. -/
def Settled (log : List (HostRecord η)) : Prop :=
  ∀ r client, log.getLast? = some r → ¬ r.Refuses client

/-- A log that was extended, and is settled again if it was before. -/
structure Grows (caller : Option PresenterId) (old new : List (HostRecord η)) : Prop where
  grown : Extends caller old new
  settled : Settled old → Settled new

namespace Grows

variable {old mid new : List (HostRecord η)}

theorem refl (old : List (HostRecord η)) : Grows caller old old := ⟨.refl old, id⟩

theorem trans (h : Grows caller old mid) (h' : Grows caller mid new) : Grows caller old new :=
  ⟨h.grown.trans h'.grown, h'.settled ∘ h.settled⟩

/-- A log whose last call was no refused offer. -/
theorem add (grown : Extends caller old mid) {r : HostRecord η} (own : r.caller = caller)
    (taken : ∀ client, ¬ r.Refuses client) : Grows caller old (mid ++ [r]) where
  grown := grown.trans (.one mid own)
  settled _ r' client last := by
    rw [List.getLast?_concat] at last
    exact Option.some.inj last ▸ taken client

/-- A call other than an offer. -/
theorem call (H : Host η) (caller : Option PresenterId) (call : HostCall)
    (harmless : call.isOffer = false)
    {s : Recorded η} (grown : Extends caller old s.log) :
    Grows caller old (((H.recorded caller).answer call).after s).log := by
  obtain ⟨outcome, log⟩ := Host.log_after_call H caller call s
  rw [log]
  refine .add grown rfl fun client refused => ?_
  obtain ⟨_, _, bars, priority, failure, e⟩ := refused
  have offer : call = .addBar bars priority client := congrArg HostRecord.call e
  rw [offer] at harmless
  cases harmless

end Grows

theorem MadeFor.mono {old new : List (HostRecord η)} {factory : FactoryId} {window : WindowId}
    {client : ClientId} (h : MadeFor id old factory window client)
    (grown : Extends caller old new) : MadeFor id new factory window client := by
  obtain ⟨caller, before, outline, mine, mem⟩ := h
  exact ⟨caller, before, outline, mine, grown.mem mem⟩

/-- A client was made for the window for which the factory was asked. -/
theorem Host.Calls.madeFor {H : Host η} {s s' : Recorded η} {factory : FactoryId}
    {window : WindowId} {outline : Outline} {client : ClientId}
    (made : H.Calls caller (.createClient factory window outline) s (.ok client) s')
    (mine : id.Allows caller) : MadeFor id s'.log factory window client :=
  ⟨caller, s.host, outline, mine, made.logged ▸ List.mem_append_right _ List.mem_cons_self⟩

theorem CutRelease.mono {old new : List (HostRecord η)} {client : ClientId}
    (h : CutRelease id old client) (grown : Extends caller old new) : CutRelease id new client := by
  obtain ⟨past, caller, before, p, future, mine, rfl, detached⟩ := h
  obtain ⟨more, rfl, -⟩ := grown
  exact ⟨past, caller, before, p, future ++ more, mine, by simp, detached⟩

def HostRecord.isRelease (r : HostRecord η) : Bool :=
  match r.call with
  | .unregisterClient _ => true
  | _ => false

theorem not_cutRelease {log : List (HostRecord η)} {client : ClientId}
    (none : log.all (fun r => !r.isRelease) = true) : ¬ CutRelease id log client := by
  rintro ⟨past, caller, before, p, future, -, rfl, -⟩
  rw [List.all_eq_true] at none
  have := none _ (List.mem_append_right past List.mem_cons_self)
  cases this

/-! ## Linked presenters -/

/-- What a presenter keeps from when it was made. -/
def Presenter.fixed (p : Presenter) : Presenter :=
  { p with client := none, shown := none, views := [] }

theorem factory_of_fixed {p p' : Presenter} (same : p'.fixed = p.fixed) : p'.factory = p.factory :=
  show p'.fixed.factory = p.fixed.factory by rw [same]

theorem window_of_fixed {p p' : Presenter} (same : p'.fixed = p.fixed) : p'.window = p.window :=
  show p'.fixed.window = p.fixed.window by rw [same]

theorem buffer_of_fixed {p p' : Presenter} (same : p'.fixed = p.fixed) : p'.buffer = p.buffer :=
  show p'.fixed.buffer = p.fixed.buffer by rw [same]

theorem bars_of_fixed {p p' : Presenter} (same : p'.fixed = p.fixed) : p'.bars = p.bars :=
  show p'.fixed.bars = p.fixed.bars by rw [same]

theorem outliner_of_fixed {p p' : Presenter} (same : p'.fixed = p.fixed) :
    p'.outliner = p.outliner :=
  show p'.fixed.outliner = p.fixed.outliner by rw [same]

theorem listener_of_fixed {p p' : Presenter} (same : p'.fixed = p.fixed) :
    p'.listener = p.listener :=
  show p'.fixed.listener = p.fixed.listener by rw [same]

/-- Whether a presenter and its buffer agree on the attached client, which the factory of
the presenter made for its window. -/
structure Linked (id : PresenterId) (p : Presenter) (bag : BufferBag)
    (log : List (HostRecord η)) : Prop where
  shown : p.shown.isSome = p.client.isSome
  property : bag.slot? .attachedBar = p.client.map (Tagged.mk .attachedBar)
  made : ∀ client, p.client = some client → MadeFor id log p.factory p.window client

/-- Whether detaching a client of the presenter was cut short by the client. -/
def WasCut (id : PresenterId) (p : Presenter) (log : List (HostRecord η)) : Prop :=
  ∃ client, MadeFor id log p.factory p.window client ∧ CutRelease id log client

theorem WasCut.mono {p p' : Presenter} {old new : List (HostRecord η)} (h : WasCut id p old)
    (same : p'.fixed = p.fixed) (grown : Extends caller old new) : WasCut id p' new := by
  obtain ⟨client, made, cut⟩ := h
  refine ⟨client, ?_, cut.mono grown⟩
  rw [factory_of_fixed same, window_of_fixed same]
  exact made.mono grown

theorem Linked.mono {p : Presenter} {bag : BufferBag} {old new : List (HostRecord η)}
    (h : Linked id p bag old) (grown : Extends caller old new) : Linked id p bag new :=
  ⟨h.shown, h.property, fun client hc => (h.made client hc).mono grown⟩

namespace Desk

/-- Whether the presenter of a desk is linked, unless one of its clients prevented it. -/
def LinkedOrCut (id : PresenterId) (d : Desk (Recorded η)) : Prop :=
  WasCut id d.presenter d.host.log ∨ Linked id d.presenter d.bag d.host.log

/-- What operations keep when they lead from one state of a desk to another. -/
structure Stays (id : PresenterId) (caller : Option PresenterId)
    (start d : Desk (Recorded η)) : Prop where
  fixed : d.presenter.fixed = start.presenter.fixed
  grows : Grows caller start.host.log d.host.log
  linked : Settled start.host.log → start.LinkedOrCut id → d.LinkedOrCut id
  others : ∀ k, k ≠ .attachedBar → d.bag.slot? k = start.bag.slot? k

namespace Stays

variable {start d d' : Desk (Recorded η)}

theorem refl (d : Desk (Recorded η)) : Stays id caller d d :=
  ⟨rfl, .refl _, fun _ h => h, fun _ _ => rfl⟩

theorem trans (h : Stays id caller start d) (h' : Stays id caller d d') :
    Stays id caller start d' where
  fixed := h'.fixed.trans h.fixed
  grows := h.grows.trans h'.grows
  linked settled linked := h'.linked (h.grows.settled settled) (h.linked settled linked)
  others k ne := (h'.others k ne).trans (h.others k ne)

/-- A change of anything but the client, the shown version and the bag. -/
theorem quiet (fixed : d'.presenter.fixed = d.presenter.fixed)
    (client : d'.presenter.client = d.presenter.client)
    (shown : d'.presenter.shown = d.presenter.shown) (bag : d'.bag = d.bag)
    (grows : Grows caller d.host.log d'.host.log) : Stays id caller d d' where
  fixed := fixed
  grows := grows
  linked _ linked := by
    rcases linked with cut | linked
    · exact .inl (cut.mono fixed grows.grown)
    · refine .inr ⟨?_, ?_, ?_⟩
      · rw [shown, client]
        exact linked.shown
      · rw [bag, client]
        exact linked.property
      · rw [client, factory_of_fixed fixed, window_of_fixed fixed]
        exact fun client h => (linked.made client h).mono grows.grown
  others k _ := by rw [bag]

end Stays

/-! ## Operations -/

variable (H : Host η) {start : Desk (Recorded η)}

open OutlineBar.Action

theorem Stays.released {d : Desk (Recorded η)} {host : Recorded η}
    (grows : Grows caller d.host.log host.log) : Stays id caller d (d.released host) where
  fixed := rfl
  grows := grows
  linked _ linked := linked.imp (·.mono rfl grows.grown) fun _ =>
    ⟨rfl, Bag.slot?_remove_self _ _, fun _ none => nomatch none⟩
  others _ ne := Bag.slot?_remove_of_ne ne _

/-- If the client panics it is forgotten already, and the rest is not. -/
theorem Stays.cut (mine : id.Allows caller) {d : Desk (Recorded η)} {client : ClientId}
    (attached : d.presenter.client = some client) {p : Panic} {host : Recorded η}
    (panicked : (H.recorded caller).unregisterClient client d.host = .error p host) :
    Stays id caller d { d with presenter := { d.presenter with client := none }, host } := by
  have log := (Host.recorded_error panicked).2
  have grown : Extends caller d.host.log host.log := log ▸ .one _ rfl
  refine ⟨rfl, log ▸ .add (.refl _) rfl ?_, fun settled linked => .inl ?_, fun _ _ => rfl⟩
  · rintro _ ⟨_, _, _, _, _, e⟩
    cases e
  · rcases linked with cut | linked
    · exact cut.mono rfl grown
    · exact ⟨client, (linked.made client attached).mono grown, d.host.log, _, _, p, [], mine, log,
        fun r last => settled r client last⟩

theorem Stays.detach (mine : id.Allows caller) (d : Desk (Recorded η)) :
    Stays id caller d ((detach (H.recorded caller)).after d) := by
  have e := detach_eq (H.recorded caller) d
  cases attached : d.presenter.client with
  | none =>
    rw [attached] at e
    rw [after_of_ok e]
    exact .refl d
  | some client =>
    rw [attached] at e
    dsimp only at e
    cases told : (H.recorded caller).unregisterClient client d.host with
    | error p host =>
      rw [told] at e
      rw [after_of_error e]
      exact .cut H mine attached told
    | ok _ host =>
      have grown : Extends caller d.host.log host.log := (Host.recorded_ok told).2 ▸ .one _ rfl
      have grows := Grows.call H caller (.removeBar d.presenter.bars) rfl grown
      rw [told] at e
      dsimp only at e
      cases removed : (H.recorded caller).removeBar d.presenter.bars host with
      | error p host' =>
        rw [removed] at e
        rw [after_of_error e]
        exact .released (after_of_error removed ▸ grows)
      | ok status host' =>
        rw [removed] at e
        rw [after_of_ok e]
        exact .released (after_of_ok removed ▸ grows)

theorem indifferent_stays : Indifferent (H.recorded caller) (Stays id caller start) where
  call _ call _ made aside h :=
    h.trans (.quiet rfl rfl rfl rfl (made ▸ .call H caller call
      (HostCall.isOffer_of_isAside aside) (.refl _)))
  views _ view h := by
    refine h.trans ?_
    unfold Presenter.noteView
    split <;> exact .quiet rfl rfl rfl rfl (.refl _)
  outliner _ _ _ _ _ h := h.trans (.quiet rfl rfl rfl rfl (.refl _))
  note _ _ h := h.trans (.quiet rfl rfl rfl rfl (.refl _))

/-- A client that the host took is remembered everywhere at once. -/
theorem Stays.showing {d : Desk (Recorded η)} {client : ClientId}
    (made : MadeFor id d.host.log d.presenter.factory d.presenter.window client) (version : Nat)
    {host : Recorded η} (grows : Grows caller d.host.log host.log) :
    Stays id caller d (Desk.showing { d with host } client version) where
  fixed := rfl
  grows := grows
  linked _ _ := .inr ⟨rfl, Bag.slot?_insert_self _ _ _,
    fun _ e => Option.some.inj e ▸ made.mono grows.grown⟩
  others _ ne := Bag.slot?_insert_of_ne ne _ _

theorem Stays.offer {d : Desk (Recorded η)} {client : ClientId}
    (made : MadeFor id d.host.log d.presenter.factory d.presenter.window client) (version : Nat) :
    Stays id caller d (after (fun d => Desk.offer (H.recorded caller) d client version) d) := by
  unfold after Desk.offer
  dsimp only
  cases added : (H.recorded caller).addBar d.presenter.bars d.presenter.priority client d.host with
  | error p host =>
    refine .quiet rfl rfl rfl rfl ((Host.recorded_error added).2 ▸ .add (.refl _) rfl ?_)
    rintro _ ⟨_, _, _, _, _, e⟩
    cases e
  | ok status host =>
    cases status with
    | ok _ =>
      refine .showing made version ((Host.recorded_ok added).2 ▸ .add (.refl _) rfl ?_)
      rintro _ ⟨_, _, _, _, _, e⟩
      cases e
    | error failure =>
      have grown : Extends caller d.host.log host.log := (Host.recorded_ok added).2 ▸ .one _ rfl
      have grows := Grows.call H caller (.unregisterClient client) rfl grown
      dsimp only
      cases told : (H.recorded caller).unregisterClient client host with
      | error p host' => exact .quiet rfl rfl rfl rfl (after_of_error told ▸ grows)
      | ok _ host' => exact .quiet rfl rfl rfl rfl (after_of_ok told ▸ grows)

/-- A client that is sent another outline shows its version from the moment of sending. -/
theorem Stays.shows {d : Desk (Recorded η)} {client : ClientId}
    (attached : d.presenter.client = some client) {version : Nat} {host : Recorded η}
    (grows : Grows caller d.host.log host.log) :
    Stays id caller d { d with presenter := { d.presenter with shown := some version }, host } where
  fixed := rfl
  grows := grows
  linked _ linked := linked.imp (·.mono rfl grows.grown) fun linked =>
    ⟨by rw [attached]; rfl, linked.property, (linked.mono grows.grown).made⟩
  others _ _ := rfl

theorem Stays.offerClient (mine : id.Allows caller) (d : Desk (Recorded η)) :
    Stays id caller d ((offerClient (H.recorded caller)).after d) := by
  have e := offerClient_eq (H.recorded caller) d
  have read := Grows.call H caller (.snapshot d.presenter.buffer) rfl
    (.refl d.host.log)
  cases taken : (H.recorded caller).snapshot d.presenter.buffer d.host with
  | error p host =>
    rw [taken] at e
    rw [after_of_error e]
    exact .quiet rfl rfl rfl rfl (after_of_error taken ▸ read)
  | ok snapshot host =>
    rw [taken] at e
    dsimp only at e
    have parsed :
        Stays id caller d ((Desk.outlineOf (H.recorded caller) snapshot).after { d with host }) :=
      (indifferent_stays H).keeps_outlineOf snapshot { d with host }
        (.quiet rfl rfl rfl rfl (after_of_ok taken ▸ read))
    cases outlined : Desk.outlineOf (H.recorded caller) snapshot { d with host } with
    | error p d' =>
      rw [outlined] at e
      rw [after_of_error e, ← after_of_error outlined]
      exact parsed
    | ok outline d' =>
      rw [outlined] at e
      dsimp only at e
      rw [after_of_ok outlined] at parsed
      refine parsed.trans ?_
      have making := Grows.call H caller
        (.createClient d'.presenter.factory d'.presenter.window outline) rfl
        (.refl d'.host.log)
      cases made : (H.recorded caller).createClient d'.presenter.factory d'.presenter.window outline
          d'.host with
      | error p host =>
        rw [made] at e
        rw [after_of_error e]
        exact .quiet rfl rfl rfl rfl (after_of_error made ▸ making)
      | ok client host =>
        rw [made] at e
        have noted : MadeFor id host.log d'.presenter.factory d'.presenter.window client :=
          (Host.calls_ok made).madeFor mine
        have kept : Stays id caller d' { d' with host } :=
          .quiet rfl rfl rfl rfl (after_of_ok made ▸ making)
        refine kept.trans ?_
        have offered : Stays id caller _ (after
            (fun d => Desk.offer (H.recorded caller) d client snapshot.version) { d' with host }) :=
          .offer H noted snapshot.version
        unfold after at offered ⊢
        rw [e]
        exact offered

theorem Stays.accept (completion : Completion) (d : Desk (Recorded η)) :
    Stays id caller d ((accept (H.recorded caller) completion).after d) := by
  have e := accept_eq (H.recorded caller) d completion
  cases attached : d.presenter.client with
  | none =>
    rw [attached] at e
    rw [after_of_ok e]
    exact .quiet rfl rfl rfl rfl (.refl _)
  | some client =>
    rw [attached] at e
    dsimp only at e
    cases stale : d.staleAgainst completion with
    | some shown =>
      rw [stale] at e
      rw [after_of_ok e]
      exact .quiet rfl rfl rfl rfl (.refl _)
    | none =>
      rw [stale] at e
      dsimp only at e
      have grows := Grows.call H caller (.updateClient client completion.outline)
        rfl (.refl d.host.log)
      cases told : (H.recorded caller).updateClient client completion.outline d.host with
      | error p host =>
        rw [told] at e
        rw [after_of_error e]
        exact .shows attached (after_of_error told ▸ grows)
      | ok _ host =>
        rw [told] at e
        rw [after_of_ok e]
        exact .shows attached (after_of_ok told ▸ grows)

theorem upheld_stays (mine : id.Allows caller) :
    Upheld (H.recorded caller) (Stays id caller start) where
  note _ _ h := h.trans (.quiet rfl rfl rfl rfl (.refl _))
  call _ call _ after harmless h :=
    h.trans (.quiet rfl rfl rfl rfl (after ▸ .call H caller call harmless.2 (.refl _)))
  detach d h := h.trans (.detach H mine d)
  offer d _ h := h.trans (.offerClient H mine d)
  accept d completion outliner _ h :=
    have taken : Stays id caller d { d with outliner } := .quiet rfl rfl rfl rfl (.refl _)
    (h.trans taken).trans (.accept H completion _)

theorem Stays.attach (mine : id.Allows caller) (d : Desk (Recorded η)) :
    Stays id caller d ((attach (H.recorded caller)).after d) :=
  (upheld_stays H mine).keeps_attach d (.refl d)

theorem Stays.drain (mine : id.Allows caller) (d : Desk (Recorded η)) :
    Stays id caller d ((drain (H.recorded caller)).after d) :=
  (upheld_stays H mine).keeps_drain d (.refl d)

theorem Stays.requestOutline (d : Desk (Recorded η)) :
    Stays id caller d ((requestOutline (H.recorded caller)).after d) :=
  (indifferent_stays H).keeps_requestOutline d (.refl d)

theorem Stays.leaves (mine : id.Allows caller) (operation : DeskOperation)
    (d : Desk (Recorded η)) : Stays id caller d (operation.leaves (H.recorded caller) d) := by
  cases operation with
  | attach => exact .attach H mine d
  | detach => exact .detach H mine d
  | accept completion => exact .accept H completion d
  | drain => exact .drain H mine d
  | requestOutline => exact .requestOutline H d
  | noteView view => exact (indifferent_stays H).keeps_noteView view d (.refl d)
  | recordViews => exact (indifferent_stays H).keeps_recordViews d (.refl d)

end Desk

end OutlineBar
