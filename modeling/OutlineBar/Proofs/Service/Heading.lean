/-
A service on the way to one outline.

A service that was asked for the outline of a text heads for it until it is delivered, as
long as no later text is asked for.  On the way the request waits to be noticed or to be
read, or its parse is under way, possibly after an older parse.  `Heads.moved` says that no
move of the loop leaves this way.
-/
import OutlineBar.Proofs.Service.Moves

namespace OutlineBar.Service

/-- What holds of a service with a fixed grammar that a listener listens to. -/
structure Ready (grammar : Grammar) (listener : ListenerId) (s : Service) : Prop where
  grammar : s.grammar = grammar
  hears : s.broadcast.Hears listener
  seen_le : s.requests.seen ≤ s.requests.sent

/-- Whether a service heads for the outline of `target`, or is done and it was delivered. -/
def Heads (target : Snapshot) (delivered : Prop) (s : Service) : Prop :=
  s.requests.latest = some target ∧
    match s.phase with
    | .waiting => s.requests.hasUnseen = true ∨ delivered
    | .parsing snapshot => s.requests.hasUnseen = true ∨ snapshot = target
    | .woken | .ended => True

section
variable {grammar : Grammar} {listener : ListenerId} {target : Snapshot} {s s' : Service}
  {m : LoopMove} {events : List Event} {p q : Prop}

theorem Ready.request (h : s.Ready grammar listener) (snapshot : Snapshot) :
    (s.request snapshot).Ready grammar listener :=
  ⟨h.grammar, h.hears, Nat.le_succ_of_le h.seen_le⟩

theorem Ready.moved (h : s.Ready grammar listener) (moves : s.Moves m s' events) :
    s'.Ready grammar listener := by
  have looked : s.requests.look.seen ≤ s.requests.look.sent := Nat.le_refl _
  cases moves with
  | wake => exact ⟨h.grammar, h.hears, looked⟩
  | nothing => exact ⟨h.grammar, h.hears, looked⟩
  | skip => exact ⟨h.grammar, h.hears, looked⟩
  | parse => exact ⟨h.grammar, h.hears, looked⟩
  | publish => exact ⟨h.grammar, (Broadcast.hears_publish _).mpr h.hears, h.seen_le⟩
  | withhold => exact ⟨h.grammar, h.hears, h.seen_le⟩
  | panic => exact ⟨h.grammar, h.hears, h.seen_le⟩
  | leave => exact ⟨h.grammar, h.hears, h.seen_le⟩

theorem Heads.imp (h : s.Heads target p) (imp : p → q) : s.Heads target q := by
  obtain ⟨latest, stage⟩ := h
  refine ⟨latest, ?_⟩
  cases phase : s.phase with
  | waiting =>
    rw [phase] at stage
    exact stage.imp_right imp
  | parsing snapshot =>
    rw [phase] at stage
    exact stage
  | woken => trivial
  | ended => trivial

/-- A request puts the service on the way, whatever it was doing. -/
theorem Ready.heads (h : s.Ready grammar listener) (target : Snapshot) (p : Prop) :
    (s.request target).Heads target p := by
  have unseen : (s.request target).requests.hasUnseen = true := by
    have := h.seen_le
    show (s.requests.seen != s.requests.sent + 1) = true
    rw [bne_iff_ne]
    omega
  refine ⟨rfl, ?_⟩
  cases phase : (s.request target).phase with
  | waiting => exact .inl unseen
  | parsing snapshot => exact .inl unseen
  | woken => trivial
  | ended => trivial

/-- The request is not skipped if nothing newer was published, and the parse ends with
its outline. -/
theorem Heads.moved (h : s.Heads target p) (moves : s.Moves m s' events) {outline : Outline}
    (fresh : ∀ version, s.lastVersion = some version → version ≤ target.version)
    (outlined : s.grammar.outline target = .ok outline)
    (kept : s'.broadcast = s.broadcast → p → q)
    (published : s'.broadcast = (s.broadcast.publish (.of outline)).2 → q) :
    s'.Heads target q := by
  obtain ⟨latest, stage⟩ := h
  cases moves with
  | wake => exact ⟨latest, trivial⟩
  | nothing wakes none =>
    rw [latest] at none
    cases none
  | @skip snapshot last wakes latest' known older =>
    cases latest.symm.trans latest'
    have := fresh last known
    omega
  | parse wakes latest' =>
    cases latest.symm.trans latest'
    exact ⟨latest, .inr rfl⟩
  | @publish snapshot outline' parses outlined' runs =>
    rw [parses] at stage
    refine ⟨latest, stage.imp_right fun same => published ?_⟩
    subst same
    cases outlined.symm.trans outlined'
    rfl
  | withhold => exact ⟨latest, trivial⟩
  | @panic snapshot _ parses panics =>
    rw [parses] at stage
    refine ⟨latest, stage.imp_right fun same => ?_⟩
    subst same
    cases outlined.symm.trans panics
  | leave => exact ⟨latest, trivial⟩

end

end OutlineBar.Service
