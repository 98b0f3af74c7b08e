/-
How a service follows the text of its buffer.

A `Timeline` says how the text of a buffer develops while a host answers calls, and which
outlines a text can have.  A service is `Timely` if every snapshot it holds is of a text
that the buffer had, and every outline is one of such a text.  Time passing, requests for
the current text and moves of the loop keep a service timely.
-/
import OutlineBar.Proofs.Host.Recorded
import OutlineBar.Proofs.Service.Moves

namespace OutlineBar

variable {η : Type}

/-- How the text of a buffer develops. -/
structure Timeline (H : Host η) (buffer : BufferId) where
  text : η → Snapshot
  /-- Whether the buffer can have the second text after the first one. -/
  Follows : Snapshot → Snapshot → Prop
  /-- Whether a text can have an outline. -/
  Outlines : Snapshot → Outline → Prop
  refl : ∀ a, Follows a a
  trans : ∀ {a b c}, Follows a b → Follows b c → Follows a c
  version_le : ∀ {a b}, Follows a b → a.version ≤ b.version
  version_eq : ∀ {a outline}, Outlines a outline → outline.version = a.version
  reads : ∀ {s snapshot s'}, H.snapshot buffer s = .ok snapshot s' → snapshot = text s
  advances : ∀ call s, Follows (text s) (text ((H.answer call).after s))

/-- Whether an outline is one of a text that the buffer has or had. -/
def Timeline.Knew {H : Host η} {buffer : BufferId} (t : Timeline H buffer) (now : Snapshot)
    (outline : Outline) : Prop :=
  ∃ snapshot, t.Outlines snapshot outline ∧ t.Follows snapshot now

theorem Timeline.Knew.mono {H : Host η} {buffer : BufferId} {t : Timeline H buffer}
    {now now' : Snapshot} {outline : Outline} (h : t.Knew now outline)
    (follows : t.Follows now now') : t.Knew now' outline := by
  obtain ⟨snapshot, outlines, known⟩ := h
  exact ⟨snapshot, outlines, t.trans known follows⟩

theorem Timeline.Knew.version_le {H : Host η} {buffer : BufferId} {t : Timeline H buffer}
    {now : Snapshot} {outline : Outline} (h : t.Knew now outline) :
    outline.version ≤ now.version := by
  obtain ⟨snapshot, outlines, known⟩ := h
  rw [t.version_eq outlines]
  exact t.version_le known

/-- Whether everything in a service is of a text that the buffer has or had. -/
structure Service.Timely {H : Host η} {buffer : BufferId} (t : Timeline H buffer) (now : Snapshot)
    (s : Service) : Prop where
  grammar : ∀ snapshot outline, s.grammar.outline snapshot = .ok outline →
    t.Outlines snapshot outline
  latest : ∀ snapshot, s.requests.latest = some snapshot → t.Follows snapshot now
  parsing : ∀ snapshot, s.phase = .parsing snapshot → t.Follows snapshot now
  published : ∀ version, s.lastVersion = some version → version ≤ now.version
  queued : ∀ id, ∀ completion ∈ s.broadcast.queue id,
    completion = .of completion.outline ∧ t.Knew now completion.outline

namespace Service.Timely

variable {H : Host η} {buffer : BufferId} {t : Timeline H buffer} {now now' : Snapshot}
  {s s' : Service}

/-- A service that was started and not used yet. -/
theorem fresh {grammar : Grammar} {broadcast : Broadcast}
    (outlines : ∀ snapshot outline, grammar.outline snapshot = .ok outline →
      t.Outlines snapshot outline)
    (unqueued : ∀ id, broadcast.queue id = []) : Timely t now { grammar, broadcast } where
  grammar := outlines
  latest _ latest := nomatch latest
  parsing _ parses := nomatch parses
  published _ known := nomatch known
  queued id _ mem := by
    rw [unqueued id] at mem
    cases mem

theorem mono (h : s.Timely t now) (follows : t.Follows now now') : s.Timely t now' where
  grammar := h.grammar
  latest snapshot latest := t.trans (h.latest snapshot latest) follows
  parsing snapshot parses := t.trans (h.parsing snapshot parses) follows
  published version known := Nat.le_trans (h.published version known) (t.version_le follows)
  queued id completion mem := (h.queued id completion mem).imp_right (·.mono follows)

theorem request (h : s.Timely t now) {snapshot : Snapshot} (known : t.Follows snapshot now) :
    (s.request snapshot).Timely t now where
  grammar := h.grammar
  latest _ latest := Option.some.inj latest ▸ known
  parsing := h.parsing
  published := h.published
  queued := h.queued

theorem take (h : s.Timely t now) {id : ListenerId} {completion : Completion}
    {broadcast : Broadcast} (taken : s.broadcast.take? id = some (completion, broadcast)) :
    Timely t now { s with broadcast } where
  grammar := h.grammar
  latest := h.latest
  parsing := h.parsing
  published := h.published
  queued id' other mem := by
    refine h.queued id' other ?_
    by_cases e : id' = id
    · subst e
      rw [Broadcast.queue_take_self taken]
      exact List.mem_cons_of_mem _ mem
    · rw [← Broadcast.queue_take_of_ne e taken]
      exact mem

theorem publish (h : s.Timely t now) {snapshot : Snapshot} (known : t.Follows snapshot now)
    {outline : Outline} (outlined : s.grammar.outline snapshot = .ok outline) :
    (s.published outline).Timely t now where
  grammar := h.grammar
  latest := h.latest
  parsing _ parses := nomatch parses
  published version last := by
    have e : outline.version = version := Option.some.inj last
    rw [← e, Grammar.outline_version outlined]
    exact t.version_le known
  queued id completion mem := by
    rcases Broadcast.mem_queue_publish mem with old | new
    · exact h.queued id completion old
    · rw [new]
      exact ⟨rfl, snapshot, h.grammar snapshot outline outlined, known⟩

/-- What the loop knows of does not matter, nor what it does while it parses nothing. -/
theorem resting (h : s.Timely t now) {requests : RequestSlot} {phase : LoopPhase}
    (latest : requests.latest = s.requests.latest) (rests : ∀ snapshot, phase ≠ .parsing snapshot) :
    Timely t now { s with requests, phase } where
  grammar := h.grammar
  latest snapshot known := h.latest snapshot (latest.symm.trans known)
  parsing snapshot parses := absurd parses (rests snapshot)
  published := h.published
  queued := h.queued

theorem moved (h : s.Timely t now) {m : LoopMove} {events : List Event}
    (moves : s.Moves m s' events) : s'.Timely t now := by
  cases moves with
  | wake waits news => exact h.resting rfl fun _ => nofun
  | nothing wakes none => exact h.resting rfl fun _ => nofun
  | skip wakes latest known older => exact h.resting rfl fun _ => nofun
  | parse wakes latest fresh =>
    refine ⟨h.grammar, h.latest, fun snapshot parses => ?_, h.published, h.queued⟩
    cases parses
    exact h.latest _ latest
  | publish parses outlined runs => exact h.publish (h.parsing _ parses) outlined
  | withhold parses outlined ends => exact h.resting rfl fun _ => nofun
  | panic parses panics => exact h.resting rfl fun _ => nofun
  | leave waits ends => exact h.resting rfl fun _ => nofun

theorem shutdown (h : s.Timely t now) : s.shutdown.Timely t now where
  grammar := h.grammar
  latest := h.latest
  parsing := h.parsing
  published := h.published
  queued := h.queued

theorem loop (h : s.Timely t now) (m : LoopMove) : ((s.move? m).getD (s, [])).1.Timely t now := by
  cases possible : s.move? m with
  | none => exact h
  | some result => exact h.moved (moves_of_move? possible)

end Service.Timely

end OutlineBar
