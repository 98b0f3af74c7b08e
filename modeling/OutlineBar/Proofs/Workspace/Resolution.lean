/-
Finding an outliner touches nothing that is there.

A buffer brings its outliner, or the host knows one, or a new service is added.  In each case
buffers, presenters, rosters and all outliners that there were stay as they are, and nobody
listens to an outliner that was added.  `Untouched` says this of two states.

`resolves_each` is about any number of resolutions by resolvers.  What a buffer brings is found
again every time, and each resolution that needs a service gets one of its own.
-/
import OutlineBar.Proofs.Action.Each
import OutlineBar.Proofs.Host.Recorded
import OutlineBar.Proofs.Outliner.Resolver
import OutlineBar.Proofs.Presenter.Steps
import OutlineBar.Proofs.Service.Delivery
import OutlineBar.Workspace.Opening

namespace OutlineBar

open OutlineBar.Action

variable {η : Type}

/-- The calls to the host that finding an outliner takes. -/
def OutlinerSource.calls (buffer : BufferId) : OutlinerSource → List HostCall
  | .host resolver => [.resolve resolver buffer]
  | .rule _ => []

namespace Workspace

/-- The listeners of an outliner, in the order in which they subscribed. -/
def listeners (w : Workspace η) (id : OutlinerId) : List ListenerId :=
  (w.outliners.get id).broadcast.openNames

/-- Whether all that was in a workspace is still as it was.  Outliners may have been added,
but none with listeners. -/
structure Untouched (w w' : Workspace η) : Prop where
  buffers : w'.buffers = w.buffers
  presenters : w'.presenters = w.presenters
  rosters : w'.rosters = w.rosters
  scopes : w'.scopes = w.scopes
  grown : w.outliners.size ≤ w'.outliners.size
  outliners : ∀ id, id.index < w.outliners.size → w'.outliners.get id = w.outliners.get id
  unheard : ∀ id, w.outliners.size ≤ id.index → id.index < w'.outliners.size →
    w'.listeners id = []

theorem Untouched.refl (w : Workspace η) : Untouched w w where
  buffers := rfl
  presenters := rfl
  rosters := rfl
  scopes := rfl
  grown := Nat.le_refl _
  outliners _ _ := rfl
  unheard _ new given := absurd given (Nat.not_lt.mpr new)

theorem Untouched.trans {w w' w'' : Workspace η} (h : Untouched w w') (h' : Untouched w' w'') :
    Untouched w w'' where
  buffers := h'.buffers.trans h.buffers
  presenters := h'.presenters.trans h.presenters
  rosters := h'.rosters.trans h.rosters
  scopes := h'.scopes.trans h.scopes
  grown := Nat.le_trans h.grown h'.grown
  outliners id given :=
    (h'.outliners id (Nat.lt_of_lt_of_le given h.grown)).trans (h.outliners id given)
  unheard id new given := by
    by_cases before : id.index < w'.outliners.size
    · have same : w''.listeners id = w'.listeners id :=
        congrArg (fun o => o.broadcast.openNames) (h'.outliners id before)
      exact same.trans (h.unheard id new before)
    · exact h'.unheard id (Nat.le_of_not_lt before) given

/-- Calls and events may come after. -/
theorem Untouched.noted {w w' : Workspace η} (h : Untouched w w') (host : η)
    (trace : List Event) : Untouched w { w' with host, trace } :=
  ⟨h.1, h.2, h.3, h.4, h.5, h.6, h.7⟩

/-! ## A new service -/

/-- The workspace with a new service, whose loop is due. -/
def withService (contentType : String) (grammar : Grammar) (w : Workspace η) : Workspace η :=
  wake ⟨w.outliners.size⟩ { w with
    outliners := (w.outliners.add (.background (.start grammar))).2
    trace := w.trace ++ [.outlinerCreated contentType] ++ [.loopStarted] }

section
variable (contentType : String) (grammar : Grammar) (w : Workspace η)

theorem withService_eq : ∃ due, withService contentType grammar w = { w with
    outliners := (w.outliners.add (.background (.start grammar))).2
    trace := w.trace ++ [.outlinerCreated contentType] ++ [.loopStarted]
    due } := by
  unfold withService wake
  split
  · exact ⟨_, rfl⟩
  · exact ⟨_, rfl⟩

theorem size_withService :
    (withService contentType grammar w).outliners.size = w.outliners.size + 1 := by
  obtain ⟨due, e⟩ := withService_eq contentType grammar w
  rw [e]
  rfl

theorem get_withService_self :
    (withService contentType grammar w).outliners.get ⟨w.outliners.size⟩ =
      .background (.start grammar) := by
  obtain ⟨due, e⟩ := withService_eq contentType grammar w
  rw [e]
  exact w.outliners.get_add_self _

theorem get_withService_of_lt {id : OutlinerId} (given : id.index < w.outliners.size) :
    (withService contentType grammar w).outliners.get id = w.outliners.get id := by
  obtain ⟨due, e⟩ := withService_eq contentType grammar w
  rw [e]
  exact w.outliners.get_add_of_lt _ given

theorem untouched_withService : Untouched w (withService contentType grammar w) := by
  have size := size_withService contentType grammar w
  have new := get_withService_self contentType grammar w
  have old {id : OutlinerId} (given : id.index < w.outliners.size) :=
    get_withService_of_lt contentType grammar w given
  obtain ⟨due, e⟩ := withService_eq contentType grammar w
  refine ⟨by rw [e], by rw [e], by rw [e], by rw [e], by omega, fun _ => old, ?_⟩
  intro id above below
  have last : id = ⟨w.outliners.size⟩ := congrArg Ref.mk (by omega : id.index = w.outliners.size)
  unfold listeners
  rw [last, new]
  rfl

end

/-! ## Finding an outliner -/

theorem resolveOutliner_eq (H : Host η) (source : OutlinerSource) (buffer : BufferId)
    (w : Workspace η) :
    resolveOutliner H source buffer w =
      match source with
      | .host resolver =>
        match H.resolve resolver buffer w.host with
        | .error p host => .error p { w with host }
        | .ok answer host => .ok answer { w with host }
      | .rule resolver =>
        let b := w.buffers.get buffer
        match resolver.resolve b.contentType (b.bag.get? .installedOutliner) with
        | .error cause => .ok (.error cause) w
        | .ok (.installed outliner) => .ok (.ok outliner) w
        | .ok (.create grammar) =>
          .ok (.ok ⟨w.outliners.size⟩) (w.withService b.contentType grammar) := by
  unfold resolveOutliner
  cases source with
  | host resolver =>
    simp only [onHost, zoom_apply]
    cases H.resolve resolver buffer w.host <;> rfl
  | rule resolver =>
    simp only [bind_apply, get_apply]
    generalize resolver.resolve _ _ = resolution
    rcases resolution with cause | outliner | grammar <;> rfl

section
variable {H : Host η} {r : Resolver} {buffer : BufferId} {w : Workspace η}

theorem resolveOutliner_of_owned (owned : r.owns (w.buffers.get buffer).contentType = true) :
    resolveOutliner H (.rule r) buffer w =
      .ok (match (w.buffers.get buffer).bag.get? .installedOutliner with
        | some outliner => .ok outliner
        | none => .error (.missing (w.buffers.get buffer).contentType)) w := by
  rw [resolveOutliner_eq]
  dsimp only [Resolver.resolve]
  rw [if_pos owned]
  cases (w.buffers.get buffer).bag.get? .installedOutliner <;> rfl

theorem resolveOutliner_of_foreign (foreign : r.owns (w.buffers.get buffer).contentType = false) :
    resolveOutliner H (.rule r) buffer w =
      match r.grammar with
      | some grammar => .ok (.ok ⟨w.outliners.size⟩)
          (w.withService (w.buffers.get buffer).contentType grammar)
      | none => .ok (.error (.unavailable (.noGrammar (w.buffers.get buffer).contentType))) w := by
  rw [resolveOutliner_eq]
  dsimp only [Resolver.resolve]
  rw [if_neg (Bool.eq_false_iff.mp foreign)]
  cases r.grammar <;> rfl

/-- What a resolver found is what the buffer brings, or a new service. -/
theorem found_of_rule {outliner : OutlinerId} {found : Workspace η}
    (resolved : resolveOutliner H (.rule r) buffer w = .ok (.ok outliner) found) :
    r.owns (w.buffers.get buffer).contentType = true ∧
        (w.buffers.get buffer).bag.get? .installedOutliner = some outliner ∧ found = w ∨
      r.owns (w.buffers.get buffer).contentType = false ∧ ∃ grammar, r.grammar = some grammar ∧
        outliner = ⟨w.outliners.size⟩ ∧
          found = w.withService (w.buffers.get buffer).contentType grammar := by
  cases owned : r.owns (w.buffers.get buffer).contentType with
  | true =>
    rw [resolveOutliner_of_owned owned] at resolved
    cases brought : (w.buffers.get buffer).bag.get? .installedOutliner with
    | none =>
      rw [brought] at resolved
      cases resolved
    | some installed =>
      rw [brought] at resolved
      cases resolved
      exact .inl ⟨rfl, rfl, rfl⟩
  | false =>
    rw [resolveOutliner_of_foreign owned] at resolved
    cases has : r.grammar with
    | none =>
      rw [has] at resolved
      cases resolved
    | some grammar =>
      rw [has] at resolved
      cases resolved
      exact .inr ⟨rfl, grammar, rfl, rfl, rfl⟩

end

theorem untouched_resolveOutliner (H : Host η) (source : OutlinerSource) (buffer : BufferId)
    (w : Workspace η) : Untouched w ((resolveOutliner H source buffer).after w) := by
  unfold after
  rw [resolveOutliner_eq]
  cases source with
  | host resolver =>
    dsimp only
    cases H.resolve resolver buffer w.host <;> exact (Untouched.refl w).noted _ _
  | rule resolver =>
    dsimp only
    generalize resolver.resolve _ _ = resolution
    rcases resolution with cause | outliner | grammar
    · exact .refl w
    · exact .refl w
    · exact untouched_withService _ _ w

/-- Only a resolver of the host is called. -/
theorem callsIn_resolveOutliner (H : Host η) (caller : Option PresenterId)
    (source : OutlinerSource) (buffer : BufferId) (w : Workspace (Recorded η)) :
    callsIn ((resolveOutliner (H.recorded caller) source buffer).after w).host.log =
      callsIn w.host.log ++ source.calls buffer := by
  unfold after
  rw [resolveOutliner_eq]
  cases source with
  | host resolver =>
    dsimp only
    cases asked : (H.recorded caller).resolve resolver buffer w.host with
    | ok answer host => exact (Host.calls_ok asked).callsIn
    | error p host => exact (Host.calls_error asked).callsIn
  | rule resolver =>
    have host (contentType : String) (grammar : Grammar) :
        (withService contentType grammar w).host = w.host := by
      obtain ⟨due, e⟩ := withService_eq contentType grammar w
      rw [e]
    rw [OutlinerSource.calls, List.append_nil]
    dsimp only
    generalize resolver.resolve _ _ = resolution
    rcases resolution with cause | outliner | grammar
    · rfl
    · rfl
    · exact congrArg (fun s : Recorded η => callsIn s.log) (host _ _)

/-! ## Any number of resolutions -/

/-- Whether a resolver answers rightly about a buffer.  The first workspace is the one before
the resolutions, the second one is what all of them left. -/
structure Resolves (w w' : Workspace η) (request : Resolver × BufferId)
    (answer : Except ResolveError OutlinerId) : Prop where
  owned : SameUpToCase (w.buffers.get request.2).contentType request.1.language →
    answer = match (w.buffers.get request.2).bag.get? .installedOutliner with
      | some outliner => .ok outliner
      | none => .error (.missing (w.buffers.get request.2).contentType)
  unavailable : ¬ SameUpToCase (w.buffers.get request.2).contentType request.1.language →
    request.1.grammar = none →
      answer = .error (.unavailable (.noGrammar (w.buffers.get request.2).contentType))
  created : ¬ SameUpToCase (w.buffers.get request.2).contentType request.1.language →
    ∀ grammar, request.1.grammar = some grammar → ∃ outliner, answer = .ok outliner ∧
      w.outliners.size ≤ outliner.index ∧ outliner.index < w'.outliners.size ∧
      w'.outliners.get outliner = .background (.start grammar)

/-- One resolution, and what comes after it leaves alone. -/
theorem resolves_rule (H : Host η) (request : Resolver × BufferId) (w : Workspace η) :
    ∃ answer w₁, resolveOutliner H (.rule request.1) request.2 w = .ok answer w₁ ∧
      Untouched w w₁ ∧ (∀ w', Untouched w₁ w' → Resolves w w' request answer) ∧
      (¬ SameUpToCase (w.buffers.get request.2).contentType request.1.language →
        ∀ outliner, answer = .ok outliner → outliner.index < w₁.outliners.size) := by
  obtain ⟨r, buffer⟩ := request
  have owns : r.owns (w.buffers.get buffer).contentType = true ↔ _ := Resolver.owns_iff
  dsimp only
  by_cases owned : SameUpToCase (w.buffers.get buffer).contentType r.language
  · exact ⟨_, w, resolveOutliner_of_owned (owns.mpr owned), .refl w,
      fun w' _ => ⟨fun _ => rfl, (absurd owned ·), (absurd owned ·)⟩, (absurd owned ·)⟩
  · have e := resolveOutliner_of_foreign (H := H)
      (Bool.eq_false_iff.mpr fun h => owned (owns.mp h))
    cases needed : r.grammar with
    | none =>
      rw [needed] at e
      exact ⟨_, w, e, .refl w, fun w' _ => ⟨(absurd · owned), fun _ _ => rfl,
        fun _ grammar has => nomatch needed.symm.trans has⟩, fun _ _ => nofun⟩
    | some grammar =>
      rw [needed] at e
      have size := size_withService (w.buffers.get buffer).contentType grammar w
      have new : w.outliners.size < (withService (w.buffers.get buffer).contentType grammar
          w).outliners.size := by omega
      refine ⟨_, _, e, untouched_withService _ _ w, fun w' later => ⟨(absurd · owned),
        fun _ none => (nomatch needed.symm.trans none), fun _ grammar' has => ?_⟩, ?_⟩
      · cases needed.symm.trans has
        refine ⟨_, rfl, Nat.le_refl _, Nat.lt_of_lt_of_le new later.grown, ?_⟩
        rw [later.outliners _ new, get_withService_self]
      · rintro _ _ ⟨⟩
        exact new

/-- Any number of resolutions by any resolvers, for any buffers.  A buffer of an owned content
type gets what it brings, whatever the grammar is, and every other buffer gets a service that
nobody got before.  Nothing that was there is touched, the bags of the buffers included. -/
theorem resolves_each (H : Host η) (requests : List (Resolver × BufferId)) (w : Workspace η) :
    ∃ answers w',
      requests.mapM (fun request => resolveOutliner H (.rule request.1) request.2) w =
        .ok answers w' ∧
      Untouched w w' ∧ List.Forall₂ (Resolves w w') requests answers ∧
      (requests.zip answers).Pairwise fun first later =>
        ∀ outliner, first.2 = .ok outliner → later.2 = .ok outliner →
          SameUpToCase (w.buffers.get first.1.2).contentType first.1.1.language ∨
            SameUpToCase (w.buffers.get later.1.2).contentType later.1.1.language := by
  induction requests generalizing w with
  | nil => exact ⟨[], w, rfl, .refl w, .nil, .nil⟩
  | cons request rest ih =>
    obtain ⟨answer, w₁, first, touched, resolves, below⟩ := resolves_rule H request w
    obtain ⟨answers, w', others, touched', each, apart⟩ := ih w₁
    -- The bags and content types are the same before and after the first resolution.
    have since {q : Resolver × BufferId} {a : Except ResolveError OutlinerId}
        (h : Resolves w₁ w' q a) : Resolves w w' q a := by
      obtain ⟨owned, unavailable, created⟩ := h
      rw [touched.buffers] at owned unavailable created
      refine ⟨owned, unavailable, fun foreign grammar has => ?_⟩
      obtain ⟨outliner, got, new, rest⟩ := created foreign grammar has
      exact ⟨outliner, got, Nat.le_trans touched.grown new, rest⟩
    rw [touched.buffers] at apart
    refine ⟨answer :: answers, w', mapM_cons_of_ok first others, touched.trans touched',
      .cons (resolves w' touched') (each.imp fun _ _ => since), ?_⟩
    rw [List.zip_cons_cons, List.pairwise_cons]
    refine ⟨fun later mem outliner got got' => ?_, apart⟩
    by_contra neither
    rw [not_or] at neither
    obtain ⟨foreign, foreign'⟩ := neither
    have resolved := (List.forall₂_iff_zip.mp each).2 mem
    rw [← touched.buffers] at foreign'
    cases has : later.1.1.grammar with
    | none => exact nomatch (resolved.unavailable foreign' has).symm.trans got'
    | some grammar =>
      obtain ⟨outliner', made, new, -⟩ := resolved.created foreign' grammar has
      cases made.symm.trans got'
      exact absurd (below foreign outliner got) (Nat.not_lt.mpr new)

end Workspace

end OutlineBar
