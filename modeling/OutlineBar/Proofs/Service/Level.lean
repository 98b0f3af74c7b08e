/-
Services whose loops stand at the same point.

Two services that show the same may differ in what they were asked for.  `Level` says that
their loops are about to do the same nevertheless, and `Level.moves` that they do it.  A
loop that waits and knows of every request is level with any other such loop, whatever
either read last.

The `facade` of a ledger is what shows of its service, with what was published and what
receivers were given.  A turn that is no move of the loop goes by the facade only, and of
the moves of a loop only a publication changes it.
-/
import OutlineBar.Proofs.Service.Silence

namespace OutlineBar

/-- A loop that knew of every request does not know of a new one. -/
theorem RequestSlot.hasUnseen_put {r : RequestSlot} (known : r.hasUnseen = false)
    (snapshot : Snapshot) : (r.put snapshot).hasUnseen = true := by
  have seen : r.seen = r.sent := by simpa [hasUnseen] using known
  simp [put, hasUnseen, seen]

namespace Service

variable {s s' t : Service} {m : LoopMove} {events : List Event}

/-- The loop waits and knows of every request. -/
def AtRest (s : Service) : Prop := s.phase = .waiting ∧ s.requests.hasUnseen = false

/-- A service without what its loop alone goes by. -/
def shown (s : Service) : Service := { s with requests := {}, phase := .waiting, started := 0 }

theorem shown_inj : t.shown = s.shown ↔
    t.grammar = s.grammar ∧ t.broadcast = s.broadcast ∧ t.lastVersion = s.lastVersion ∧
      t.completed = s.completed ∧ t.cancelled = s.cancelled ∧ t.dropped = s.dropped := by
  simp [shown]

/-- Only a publication shows. -/
theorem shown_of_silent (moves : s.Moves m s' events) (silent : s'.completed = s.completed) :
    s'.shown = s.shown := by
  cases moves with
  | publish => exact absurd silent (Nat.succ_ne_self _)
  | _ => rfl

theorem shown_published (same : t.shown = s.shown) (outline : Outline) :
    (t.published outline).shown = (s.published outline).shown := by
  obtain ⟨grammar, broadcast, -, completed, cancelled, dropped⟩ := shown_inj.mp same
  simp [shown, published, *]

theorem heard_eq (s : Service) (m : LoopMove) : s.heard m =
    ((s.subscribe.2.move? m).map fun next => next.1.broadcast.queue s.subscribe.1).getD [] := by
  unfold heard
  obtain ⟨id, subscribed⟩ := s.subscribe
  dsimp only
  cases subscribed.move? m <;> rfl

/-- Two services show the same, and their loops stand at the same point. -/
structure Level (s t : Service) : Prop where
  shown : t.shown = s.shown
  phase : t.phase = s.phase
  hasUnseen : t.requests.hasUnseen = s.requests.hasUnseen
  /-- The last request counts when it is still to be read. -/
  latest : s.phase = .woken ∨ s.requests.hasUnseen = true →
    t.requests.latest = s.requests.latest

namespace Level

theorem symm (h : Level s t) : Level t s where
  shown := h.shown.symm
  phase := h.phase.symm
  hasUnseen := h.hasUnseen.symm
  latest := fun unread => (h.latest (by rwa [h.phase, h.hasUnseen] at unread)).symm

/-- Loops at rest stand at the same point, whatever they read last. -/
theorem of_atRest (shown : t.shown = s.shown) (rests : s.AtRest) (rests' : t.AtRest) :
    Level s t where
  shown := shown
  phase := rests'.1.trans rests.1.symm
  hasUnseen := rests'.2.trans rests.2.symm
  latest := by
    rw [rests.1, rests.2]
    exact fun unread => absurd unread (by simp)

/-- A loop that looked at the requests and does not read them is level with another such. -/
theorem looked (h : Level s t) {phase : LoopPhase} (reads : phase ≠ .woken) {n k : Nat} :
    Level { s with requests := s.requests.look, phase, started := n }
      { t with requests := t.requests.look, phase, started := k } where
  shown := h.shown
  phase := rfl
  hasUnseen := (RequestSlot.hasUnseen_look _).trans (RequestSlot.hasUnseen_look _).symm
  latest := fun unread => by
    rw [RequestSlot.hasUnseen_look] at unread
    exact absurd unread (by simp [reads])

/-- A move that ends a parse or the loop leaves the requests alone. -/
theorem stepped (h : Level s t) {phase : LoopPhase} (reads : phase ≠ .woken) :
    Level { s with phase } { t with phase } where
  shown := h.shown
  phase := rfl
  hasUnseen := h.hasUnseen
  latest := fun unread => h.latest (unread.imp_left fun e => absurd e reads)

/-- Level loops make the same moves, report the same, and stay level. -/
theorem moves (h : Level s t) (moves : s.Moves m s' events) :
    ∃ t', t.Moves m t' events ∧ Level s' t' := by
  obtain ⟨grammar, broadcast, lastVersion, completed, cancelled, dropped⟩ := shown_inj.mp h.shown
  cases moves with
  | wake waits news =>
    refine ⟨_, .wake (h.phase.trans waits) (h.hasUnseen.trans news), ?_⟩
    exact {
      shown := h.shown
      phase := rfl
      hasUnseen := (RequestSlot.hasUnseen_look _).trans (RequestSlot.hasUnseen_look _).symm
      latest := fun _ => h.latest (.inr news) }
  | nothing wakes none =>
    exact ⟨_, .nothing (h.phase.trans wakes) ((h.latest (.inl wakes)).trans none),
      h.looked (by simp)⟩
  | skip wakes latest known older =>
    exact ⟨_, .skip (h.phase.trans wakes) ((h.latest (.inl wakes)).trans latest)
      (lastVersion.trans known) older, h.looked (by simp)⟩
  | parse wakes latest fresh =>
    exact ⟨_, .parse (h.phase.trans wakes) ((h.latest (.inl wakes)).trans latest)
      (lastVersion ▸ fresh), h.looked (by simp)⟩
  | @publish snapshot outline parses outlined runs =>
    rw [← broadcast]
    refine ⟨_, .publish (h.phase.trans parses) (by rwa [grammar]) (cancelled.trans runs), ?_⟩
    exact {
      shown := shown_published h.shown outline
      phase := rfl
      hasUnseen := h.hasUnseen
      latest := fun unread => h.latest (unread.imp_left nofun) }
  | withhold parses outlined ends =>
    exact ⟨_, .withhold (h.phase.trans parses) (by rw [grammar, outlined]) (cancelled.trans ends),
      h.stepped (by simp)⟩
  | panic parses panics =>
    exact ⟨_, .panic (h.phase.trans parses) (by rw [grammar, panics]), h.stepped (by simp)⟩
  | leave waits ends =>
    exact ⟨_, .leave (h.phase.trans waits) (cancelled.trans ends), h.stepped (by simp)⟩

theorem stuck (h : Level s t) (stays : s.move? m = none) : t.move? m = none := by
  cases possible : t.move? m with
  | none => rfl
  | some next =>
    obtain ⟨s', moves, -⟩ := h.symm.moves (moves_of_move? possible)
    rw [moves.move?] at stays
    cases stays

theorem subscribe (h : Level s t) : Level s.subscribe.2 t.subscribe.2 where
  shown := by
    obtain ⟨grammar, broadcast, lastVersion, completed, cancelled, dropped⟩ := shown_inj.mp h.shown
    simp [Service.shown, Service.subscribe, *]
  phase := h.phase
  hasUnseen := h.hasUnseen
  latest := h.latest

/-- A listener hears the same from level loops. -/
theorem heard (h : Level s t) (m : LoopMove) : t.heard m = s.heard m := by
  have listener : t.subscribe.1 = s.subscribe.1 :=
    congrArg (fun b => b.subscribe.1) (shown_inj.mp h.shown).2.1
  rw [heard_eq, heard_eq, listener]
  cases possible : s.subscribe.2.move? m with
  | none => rw [h.subscribe.stuck possible]
  | some next =>
    obtain ⟨t', moves, after⟩ := h.subscribe.moves (moves_of_move? possible)
    rw [moves.move?, Option.map_some, Option.map_some, (shown_inj.mp after.shown).2.1]

end Level

/-- Loops at rest that are asked for the same are level. -/
theorem level_request (shown : t.shown = s.shown) (rests : s.AtRest) (rests' : t.AtRest)
    (snapshot : Snapshot) : Level (s.request snapshot) (t.request snapshot) where
  shown := shown
  phase := rests'.1.trans rests.1.symm
  hasUnseen := (RequestSlot.hasUnseen_put rests'.2 _).trans
    (RequestSlot.hasUnseen_put rests.2 _).symm
  latest := fun _ => rfl

/-- A loop at rest that runs cannot move. -/
theorem AtRest.stuck (rests : s.AtRest) (runs : s.cancelled = false) (m : LoopMove) :
    s.move? m = none := by
  cases m <;> simp [move?, rests.1, rests.2, runs]

end Service

namespace Ledger

variable {l l' : Ledger} {t : Turn}

/-! ## What shows of a ledger -/

/-- The part of a ledger that does not depend on what the loop was asked for. -/
def facade (l : Ledger) : Service × List Completion × List Receiver :=
  (l.service.shown, l.published.map Publication.completion, l.receivers)

theorem facade_inj : l'.facade = l.facade ↔ l'.service.shown = l.service.shown ∧
    l'.published.map Publication.completion = l.published.map Publication.completion ∧
    l'.receivers = l.receivers := by
  simp [facade]

/-- A turn that is no move of the loop goes by what shows only. -/
theorem facade_turn (same : l'.facade = l.facade) (aside : t.move? = none) :
    (l'.turn t).facade = (l.turn t).facade := by
  obtain ⟨shown, completions, receivers⟩ := facade_inj.mp same
  obtain ⟨grammar, broadcast, lastVersion, completed, cancelled, dropped⟩ :=
    Service.shown_inj.mp shown
  have published : l'.published.length = l.published.length := by
    simpa using congrArg List.length completions
  have took (id : ListenerId) : (Chronicle.takeOldest id l'.service).shown =
      (Chronicle.takeOldest id l.service).shown := by
    unfold Chronicle.takeOldest
    rw [broadcast]
    cases l.service.broadcast.take? id <;> simp [Service.shown, *]
  rw [facade_inj]
  cases t with
  | next id => simp [turn, snd_next, brought_next, *]
  | act a =>
    cases a with
    | loop m => cases aside
    | take id => simp [turn, Chronicle.act, *]
    | dropListener id => simp [turn, Chronicle.act, Service.shown, Service.dropListener, *]
    | turnGrammar grammar => simp [turn, Chronicle.act, Service.shown, *]
    | request snapshot =>
      cases gone : l.service.dropped <;>
        simp [turn, Chronicle.act, Chronicle.request, Service.shown, Service.request, *]
    | parseNow snapshot =>
      cases gone : l.service.dropped <;>
        simp [turn, Chronicle.act, Chronicle.call, Service.shown, Service.parseNow, *]
    | subscribe =>
      cases gone : l.service.dropped <;>
        simp [turn, Chronicle.act, Chronicle.call, Service.shown, Service.subscribe, *]
    | countListeners =>
      cases gone : l.service.dropped <;>
        simp [turn, Chronicle.act, Chronicle.call, Service.shown, Service.listenerCount, *]
    | shutdown =>
      cases gone : l.service.dropped <;>
        simp [turn, Chronicle.act, Chronicle.call, Service.shown, Service.shutdown, *]
    | drop =>
      cases gone : l.service.dropped <;>
        simp [turn, Chronicle.act, Chronicle.call, Service.shown, Service.drop, *]

/-- A request does not show. -/
theorem facade_request (l : Ledger) (snapshot : Snapshot) :
    (l.turn (.act (.request snapshot))).facade = l.facade := by
  cases gone : l.service.dropped <;>
    simp [facade, turn, Chronicle.act, Chronicle.request, Service.shown, Service.request, gone]

theorem service_of_moves {m : LoopMove} {s : Service} {events : List Event}
    (moves : l.service.Moves m s events) :
    (l.turn (.act (.loop m))).service = s ∧
      (l.turn (.act (.loop m))).requested = l.requested := by
  have e := Chronicle.move_of_moves moves
  refine ⟨?_, ?_⟩
  · show (l.toChronicle.move m).service = _
    rw [e]
  · show (l.toChronicle.move m).requested = _
    rw [e]

/-- A move that publishes nothing does not show. -/
theorem facade_of_silent (exact : l.Exact) {m : LoopMove} {s : Service} {events : List Event}
    (moves : l.service.Moves m s events) (silent : s.completed = l.service.completed) :
    (l.turn (.act (.loop m))).facade = l.facade := by
  have e := Chronicle.move_of_moves moves
  have published : (l.turn (.act (.loop m))).published = l.published := by
    show (l.toChronicle.move m).published = _
    rw [e, Service.heard_of_silent exact.ordered moves silent]
    exact List.append_nil _
  rw [facade_inj, (service_of_moves moves).1, published]
  exact ⟨Service.shown_of_silent moves silent, rfl, rfl⟩

/-- No move shows after the loop was told to end. -/
theorem facade_of_told (exact : l.Exact) (told : l.service.cancelled = true) (m : LoopMove) :
    (l.turn (.act (.loop m))).facade = l.facade := by
  cases possible : l.service.move? m with
  | none => rw [turn_of_stuck possible]
  | some next =>
    have moves := Service.moves_of_move? possible
    exact facade_of_silent exact moves ((Service.kept_of_moves moves).2.2 told)

/-- Level loops publish the same with a move, and stay level. -/
theorem level_move (same : l'.facade = l.facade) (level : l.service.Level l'.service)
    (m : LoopMove) :
    (l'.turn (.act (.loop m))).facade = (l.turn (.act (.loop m))).facade ∧
      (l.turn (.act (.loop m))).service.Level (l'.turn (.act (.loop m))).service := by
  cases possible : l.service.move? m with
  | none =>
    rw [turn_of_stuck possible, turn_of_stuck (level.stuck possible)]
    exact ⟨same, level⟩
  | some next =>
    have moves := Service.moves_of_move? possible
    obtain ⟨t', moves', after⟩ := level.moves moves
    obtain ⟨-, completions, receivers⟩ := facade_inj.mp same
    have e := Chronicle.move_of_moves moves
    have e' := Chronicle.move_of_moves moves'
    rw [facade_inj, (service_of_moves moves).1, (service_of_moves moves').1]
    refine ⟨⟨after.shown, ?_, receivers⟩, after⟩
    show (l'.toChronicle.move m).published.map Publication.completion =
      (l.toChronicle.move m).published.map Publication.completion
    rw [e, e', List.map_append, List.map_append, completions, level.heard, List.map_map,
      List.map_map]
    rfl

end Ledger

end OutlineBar
