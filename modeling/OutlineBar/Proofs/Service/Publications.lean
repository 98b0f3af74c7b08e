/-
What a service publishes.

A `Journal` is a chronicle that also notes which parses the loop began, and what the
grammar answered to those that ended.  The main statement is `published_in_order`: what was
published are outlines of requests, in the order of the requests, each with the version of
its request and otherwise as the grammar made it; versions never decrease; and one parse at
most is under way.

The invariant is `Faithful`.  Every list of the journal is a part of the one before it:
parses are begun for what was picked up, they end in the order in which they began, and
publications are what some of them answered.
-/
import Mathlib.Data.List.Forall2
import OutlineBar.Proofs.Service.LastRequest

namespace OutlineBar

/-- A parse of the loop that ended, and what the grammar answered. -/
structure Parse where
  pickUp : PickUp
  answer : Except Panic Outline

namespace Service

/-- What the loop begins to parse with a move. -/
def begins (s : Service) (m : LoopMove) : Option Snapshot :=
  (s.move? m).bind fun next => next.1.phase.snapshot?

variable {s s' : Service} {m : LoopMove} {events : List Event}

theorem begins_of_moves (moves : s.Moves m s' events) : s.begins m = s'.phase.snapshot? := by
  unfold begins
  rw [moves.move?]
  rfl

/-- Nothing is picked up while a parse is under way. -/
theorem ne_pick_of_moves (moves : s.Moves m s' events) {snapshot : Snapshot}
    (parses : s.phase = .parsing snapshot) : m ≠ .pick := by
  rintro rfl
  have impossible := moves.move?
  unfold move? at impossible
  rw [parses] at impossible
  cases impossible

end Service

/-- A chronicle with the calls of the grammar. -/
structure Journal extends Chronicle where
  /-- What the loop began to parse, in order. -/
  begun : List PickUp := []
  /-- The parses of the loop that ended, in order. -/
  ended : List Parse := []
  /-- What was parsed on behalf of a caller. -/
  blocking : List Snapshot := []

namespace Journal

def start (grammar : Grammar) : Journal := { toChronicle := .start grammar }

/-- The journal after a move of the loop.  What begins to be parsed was picked up last. -/
def move (m : LoopMove) (j : Journal) : Journal :=
  { j with
    toChronicle := j.toChronicle.move m
    begun :=
      j.begun ++ ((j.service.begins m).map (PickUp.mk (j.toChronicle.move m).current)).toList
    ended :=
      j.ended ++ ((j.service.ends m).map fun parse => ⟨⟨j.current, parse.1⟩, parse.2⟩).toList }

/-- The journal after an act. -/
def act (j : Journal) : ServiceAct → Journal
  | .loop m => j.move m
  | .parseNow snapshot => { j with
      toChronicle := j.toChronicle.act (.parseNow snapshot)
      blocking := if j.service.dropped then j.blocking else j.blocking ++ [snapshot] }
  | a => { j with toChronicle := j.toChronicle.act a }

/-- The journal after a course from the start of a service. -/
def course (grammar : Grammar) (acts : List ServiceAct) : Journal :=
  acts.foldl act (start grammar)

/-- The parse that is under way. -/
def underWay (j : Journal) : Option PickUp := j.service.phase.snapshot?.map (PickUp.mk j.current)

end Journal

/-- Whether a publication is the outline that a parse answered, under the version of the
request that was parsed. -/
def Publication.Shows (parse : Parse) (q : Publication) : Prop :=
  q.number = parse.pickUp.number ∧ q.completion.version = parse.pickUp.snapshot.version ∧
    q.completion.outline.version = parse.pickUp.snapshot.version ∧
    ∃ made, parse.answer = .ok made ∧
      q.completion.outline = { made with version := parse.pickUp.snapshot.version }

namespace Journal

/-! ## The invariant -/

/-- What holds after every course. -/
structure Faithful (j : Journal) : Prop where
  sound : j.toChronicle.Sound
  begun : j.begun.Sublist j.picked
  ended : j.begun = j.ended.map Parse.pickUp ++ j.underWay.toList
  published : ∃ shown, shown.Sublist j.ended ∧ List.Forall₂ Publication.Shows shown j.published
  ascending : (j.published.map fun q => q.completion.version).Pairwise (· ≤ ·)
  fresh : ∀ snapshot last, j.service.phase = .parsing snapshot →
    j.service.lastVersion = some last → last ≤ snapshot.version
  completed : j.service.completed = j.published.length
  started : j.service.started = j.begun.length + j.blocking.length

variable {j : Journal}

/-- What was picked up are requests, in their order. -/
theorem sublist_requested {c : Chronicle} (h : c.Sound) :
    (c.picked.map PickUp.snapshot).Sublist c.requested := by
  have within : ∀ p ∈ c.picked, p.number - 1 < c.requested.length := fun p hp =>
    (List.getElem?_eq_some_iff.mp (h.genuine p hp).2).1
  -- The numbers are places in the list of requests, and they ascend.
  let places : List (Fin c.requested.length) :=
    c.picked.pmap (fun p lt => ⟨p.number - 1, lt⟩) within
  have ascending : places.Pairwise (· < ·) := by
    rw [List.pairwise_pmap]
    refine (List.pairwise_map.mp h.ascending).imp_of_mem fun {p q} hp hq less _ _ => ?_
    have := (h.genuine p hp).1
    show p.number - 1 < q.number - 1
    omega
  have same : places.map (fun place => c.requested[place]) = c.picked.map PickUp.snapshot := by
    rw [List.map_pmap, ← List.pmap_eq_map within]
    refine List.pmap_congr_left _ fun p hp _ _ => ?_
    exact (List.getElem?_eq_some_iff.mp (h.genuine p hp).2).2
  rw [← same]
  exact List.map_getElem_sublist ascending

theorem faithful_start (grammar : Grammar) : (start grammar).Faithful where
  sound := Chronicle.sound_start grammar
  begun := .slnil
  ended := rfl
  published := ⟨[], .slnil, .nil⟩
  ascending := .nil
  fresh := fun _ _ _ => nofun
  completed := rfl
  started := rfl

/-- An act that is no move of the loop leaves alone what the invariant looks at. -/
theorem Faithful.quiet (h : j.Faithful) {c : Chronicle} (sound : c.Sound)
    (picked : c.picked = j.picked) (published : c.published = j.published)
    (phase : c.service.phase = j.service.phase)
    (lastVersion : c.service.lastVersion = j.service.lastVersion)
    (completed : c.service.completed = j.service.completed)
    (started : c.service.started = j.service.started) :
    Faithful { j with toChronicle := c } where
  sound := sound
  begun := by rw [picked]; exact h.begun
  ended := by
    have underWay : underWay { j with toChronicle := c } = j.underWay := by
      unfold Journal.underWay Chronicle.current
      rw [phase, picked]
    rw [underWay]
    exact h.ended
  published := by rw [published]; exact h.published
  ascending := by rw [published]; exact h.ascending
  fresh := by rw [phase, lastVersion]; exact h.fresh
  completed := by rw [completed, published]; exact h.completed
  started := by rw [started]; exact h.started

theorem Faithful.call (h : j.Faithful) (change : Service → Service)
    (sound : (j.toChronicle.call change).Sound)
    (phase : (change j.service).phase = j.service.phase)
    (lastVersion : (change j.service).lastVersion = j.service.lastVersion)
    (completed : (change j.service).completed = j.service.completed)
    (started : (change j.service).started = j.service.started) :
    Faithful { j with toChronicle := j.toChronicle.call change } := by
  by_cases gone : j.service.dropped
  · have same : j.toChronicle.call change = j.toChronicle := if_pos gone
    rw [same]
    exact h
  · have called : j.toChronicle.call change =
        { j.toChronicle with service := change j.service } := if_neg gone
    rw [called] at sound ⊢
    exact h.quiet sound rfl rfl phase lastVersion completed started

/-! ## Moves of the loop -/

/-- A move outside a parse that begins none. -/
theorem Faithful.rest (h : j.Faithful) (idle : j.service.phase.snapshot? = none) {c : Chronicle}
    (sound : c.Sound) (picked : j.picked.Sublist c.picked) (published : c.published = j.published)
    (rests : c.service.phase.snapshot? = none)
    (completed : c.service.completed = j.service.completed)
    (started : c.service.started = j.service.started) :
    Faithful { j with toChronicle := c } where
  sound := sound
  begun := h.begun.trans picked
  ended := by
    have ended := h.ended
    unfold underWay at ended ⊢
    rw [idle] at ended
    rw [rests]
    exact ended
  published := by rw [published]; exact h.published
  ascending := by rw [published]; exact h.ascending
  fresh := by
    intro snapshot last parses
    rw [parses] at rests
    cases rests
  completed := by rw [completed, published]; exact h.completed
  started := by rw [started]; exact h.started

/-- A parse begins for what was picked up last. -/
theorem Faithful.begin (h : j.Faithful) (idle : j.service.phase.snapshot? = none) {c : Chronicle}
    (sound : c.Sound) {p : PickUp} (picked : c.picked = j.picked ++ [p])
    (published : c.published = j.published) (parses : c.service.phase = .parsing p.snapshot)
    (fresh : ∀ last, c.service.lastVersion = some last → last ≤ p.snapshot.version)
    (completed : c.service.completed = j.service.completed)
    (started : c.service.started = j.service.started + 1) :
    Faithful { j with toChronicle := c, begun := j.begun ++ [p] } where
  sound := sound
  begun := by rw [picked]; exact h.begun.append (.refl _)
  ended := by
    have current : c.current = p.number := by
      unfold Chronicle.current
      rw [picked, List.getLast?_concat]
      rfl
    have ended := h.ended
    unfold underWay at ended ⊢
    rw [idle] at ended
    show j.begun ++ [p] = _
    rw [ended, parses, current]
    simp [LoopPhase.snapshot?]
  published := by rw [published]; exact h.published
  ascending := by rw [published]; exact h.ascending
  fresh := by
    intro snapshot last parses' known
    cases parses.symm.trans parses'
    exact fresh last known
  completed := by rw [completed, published]; exact h.completed
  started := by
    rw [started, h.started]
    simp only [List.length_append, List.length_singleton]
    omega

/-- Nothing newer than the parse under way was published. -/
theorem Faithful.version_le (h : j.Faithful) {snapshot : Snapshot}
    (parses : j.service.phase = .parsing snapshot) :
    ∀ q ∈ j.published, q.completion.version ≤ snapshot.version := by
  intro q hq
  -- `fresh` bounds the last publication, and the others were no newer.
  obtain none | ⟨before, last, split⟩ := List.eq_nil_or_concat' j.published
  · rw [none] at hq
    cases hq
  · have known : last.completion.version ≤ snapshot.version :=
      h.fresh snapshot _ parses (by rw [h.sound.last, split, List.getLast?_concat]; rfl)
    have ascending := h.ascending
    rw [split, List.map_append, List.pairwise_append] at ascending
    rw [split] at hq
    rcases List.mem_append.mp hq with old | new
    · have less := ascending.2.2 _ (List.mem_map_of_mem old) _ (List.mem_singleton.mpr rfl)
      exact Nat.le_trans less known
    · rw [List.mem_singleton.mp new]
      exact known

/-- A parse ends, and at most one outline is published, which is what it answered. -/
theorem Faithful.finish (h : j.Faithful) {snapshot : Snapshot}
    (parses : j.service.phase = .parsing snapshot) {c : Chronicle} (sound : c.Sound)
    (picked : c.picked = j.picked) (more : Option Publication)
    (published : c.published = j.published ++ more.toList)
    (shows : ∀ q ∈ more, q.Shows ⟨⟨j.current, snapshot⟩, j.service.grammar snapshot⟩)
    (rests : c.service.phase.snapshot? = none)
    (completed : c.service.completed = j.service.completed + more.toList.length)
    (started : c.service.started = j.service.started) :
    Faithful { j with
      toChronicle := c
      ended := j.ended ++ [⟨⟨j.current, snapshot⟩, j.service.grammar snapshot⟩] } where
  sound := sound
  begun := by rw [picked]; exact h.begun
  ended := by
    have ended := h.ended
    unfold underWay at ended ⊢
    rw [parses] at ended
    rw [ended, rests]
    simp [LoopPhase.snapshot?]
  published := by
    obtain ⟨shown, part, all⟩ := h.published
    rw [published]
    cases more with
    | none => exact ⟨shown, part.trans (List.sublist_append_left _ _), by simpa using all⟩
    | some q =>
      exact ⟨shown ++ [_], part.append (.refl _),
        List.rel_append all (.cons (shows q rfl) .nil)⟩
  ascending := by
    rw [published]
    cases more with
    | none => simpa using h.ascending
    | some q =>
      rw [Option.toList_some, List.map_append, List.pairwise_append]
      refine ⟨h.ascending, List.pairwise_singleton _ _, ?_⟩
      intro version old version' new
      obtain ⟨other, mem, rfl⟩ := List.mem_map.mp old
      rw [List.map_singleton, List.mem_singleton] at new
      rw [new, (shows q rfl).2.1]
      exact h.version_le parses other mem
  fresh := by
    intro snapshot last parses
    rw [parses] at rests
    cases rests
  completed := by rw [completed, published, List.length_append, h.completed]
  started := by rw [started]; exact h.started

section
variable {m : LoopMove} {s : Service} {events : List Event}

/-- What a move publishes that the service does not count. -/
theorem Faithful.published_eq (h : j.Faithful) (moves : j.service.Moves m s events)
    (kept : s.completed = j.service.completed) :
    (j.toChronicle.move m).published = j.published := by
  have e := Chronicle.move_of_moves moves
  rw [e, Service.heard_of_silent h.sound.ordered moves kept]
  exact List.append_nil _

/-- A move between two states outside a parse. -/
theorem Faithful.movedAtRest (h : j.Faithful) (moves : j.service.Moves m s events)
    (idle : j.service.phase.snapshot? = none) (rests : s.phase.snapshot? = none)
    (completed : s.completed = j.service.completed) (started : s.started = j.service.started) :
    (j.move m).Faithful := by
  have e := Chronicle.move_of_moves moves
  have same : j.move m = { j with toChronicle := j.toChronicle.move m } := by
    unfold move
    rw [Service.begins_of_moves moves, Service.ends_of_moves moves, idle, rests]
    simp only [Option.map_none, Option.toList_none, List.append_nil]
  rw [same]
  refine h.rest idle (h.sound.move m) ?_ (h.published_eq moves completed) ?_ ?_ ?_
  all_goals rw [e]
  · exact List.sublist_append_left _ _
  · exact rests
  · exact completed
  · exact started

/-- A move that begins a parse of what it picks up. -/
theorem Faithful.movedToParse (h : j.Faithful) (moves : j.service.Moves .pick s events)
    {snapshot : Snapshot} (idle : j.service.phase.snapshot? = none)
    (latest : j.service.requests.latest = some snapshot) (parses : s.phase = .parsing snapshot)
    (fresh : ∀ last, s.lastVersion = some last → last ≤ snapshot.version)
    (completed : s.completed = j.service.completed)
    (started : s.started = j.service.started + 1) : (j.move .pick).Faithful := by
  have e := Chronicle.move_of_moves moves
  let p : PickUp := ⟨j.requested.length, snapshot⟩
  have picked : (j.toChronicle.move .pick).picked = j.picked ++ [p] := by
    rw [e]
    show j.picked ++ (j.service.requests.latest.map (PickUp.mk j.requested.length)).toList = _
    rw [latest]
    rfl
  have current : (j.toChronicle.move .pick).current = j.requested.length := by
    unfold Chronicle.current
    rw [picked, List.getLast?_concat]
    rfl
  have begun : j.move .pick = { j with
      toChronicle := j.toChronicle.move .pick
      begun := j.begun ++ [p] } := by
    unfold move
    rw [Service.begins_of_moves moves, Service.ends_of_moves moves, idle, parses, current]
    simp [LoopPhase.snapshot?, p]
  rw [begun]
  refine h.begin idle (h.sound.move .pick) picked (h.published_eq moves completed) ?_ ?_ ?_ ?_
  all_goals rw [e]
  · exact parses
  · exact fresh
  · exact completed
  · exact started

/-- A move that ends a parse, and may publish what it answered. -/
theorem Faithful.movedFromParse (h : j.Faithful) (moves : j.service.Moves m s events)
    {snapshot : Snapshot} (parses : j.service.phase = .parsing snapshot)
    (rests : s.phase.snapshot? = none) (more : Option Publication)
    (published : (j.toChronicle.move m).published = j.published ++ more.toList)
    (shows : ∀ q ∈ more, q.Shows ⟨⟨j.current, snapshot⟩, j.service.grammar snapshot⟩)
    (completed : s.completed = j.service.completed + more.toList.length)
    (started : s.started = j.service.started) : (j.move m).Faithful := by
  have e := Chronicle.move_of_moves moves
  have ended : j.move m = { j with
      toChronicle := j.toChronicle.move m
      ended := j.ended ++ [⟨⟨j.current, snapshot⟩, j.service.grammar snapshot⟩] } := by
    unfold move
    rw [Service.begins_of_moves moves, Service.ends_of_moves moves, parses, rests]
    simp only [Option.map_none, Option.toList_none, List.append_nil]
    rfl
  rw [ended]
  refine h.finish parses (h.sound.move m) ?_ more published shows ?_ ?_ ?_
  all_goals rw [e]
  · rw [if_neg (Service.ne_pick_of_moves moves parses), List.append_nil]
  · exact rests
  · exact completed
  · exact started

theorem Faithful.moved (h : j.Faithful) (moves : j.service.Moves m s events) :
    (j.move m).Faithful := by
  have unpublished {snapshot : Snapshot} (parses : j.service.phase = .parsing snapshot)
      (rests : s.phase.snapshot? = none) (completed : s.completed = j.service.completed)
      (started : s.started = j.service.started) : (j.move m).Faithful :=
    h.movedFromParse moves parses rests none
      ((h.published_eq moves completed).trans (List.append_nil _).symm) nofun completed started
  have moved := moves
  cases moves with
  | wake waits news => exact h.movedAtRest moved (by rw [waits]; rfl) rfl rfl rfl
  | nothing wakes none => exact h.movedAtRest moved (by rw [wakes]; rfl) rfl rfl rfl
  | skip wakes latest known older => exact h.movedAtRest moved (by rw [wakes]; rfl) rfl rfl rfl
  | leave waits ends => exact h.movedAtRest moved (by rw [waits]; rfl) rfl rfl rfl
  | parse wakes latest fresh =>
    exact h.movedToParse moved (by rw [wakes]; rfl) latest rfl fresh rfl rfl
  | @publish snapshot outline parses outlined runs =>
    refine h.movedFromParse moved parses rfl (some ⟨j.current, .of outline⟩) ?_ ?_ rfl rfl
    · have e := Chronicle.move_of_moves moved
      rw [e, Service.heard_of_publish h.sound.ordered parses outlined runs]
      rfl
    · rintro _ ⟨⟩
      obtain ⟨made, answered, rfl⟩ := Grammar.outline_eq_ok outlined
      exact ⟨rfl, rfl, rfl, made, answered, rfl⟩
  | withhold parses outlined ends => exact unpublished parses rfl rfl rfl
  | panic parses panics => exact unpublished parses rfl rfl rfl

end

theorem Faithful.move (h : j.Faithful) (m : LoopMove) : (j.move m).Faithful := by
  cases possible : j.service.move? m with
  | some next => exact h.moved (Service.moves_of_move? possible)
  | none =>
    have same : j.move m = j := by
      have begins : j.service.begins m = none := by unfold Service.begins; rw [possible]; rfl
      have ends : j.service.ends m = none := by unfold Service.ends; rw [possible]; rfl
      unfold Journal.move Chronicle.move
      rw [begins, ends, possible]
      simp
    rw [same]
    exact h

/-! ## Courses -/

theorem Faithful.request (h : j.Faithful) (snapshot : Snapshot) :
    (j.act (.request snapshot)).Faithful := by
  have sound : (j.toChronicle.request snapshot).Sound := h.sound.request snapshot
  show Faithful { j with toChronicle := j.toChronicle.request snapshot }
  unfold Chronicle.request at sound ⊢
  by_cases gone : j.service.dropped
  · rw [if_pos gone]
    exact h
  · rw [if_neg gone] at sound ⊢
    exact h.quiet sound rfl rfl rfl rfl rfl rfl

theorem Faithful.parseNow (h : j.Faithful) (snapshot : Snapshot) :
    (j.act (.parseNow snapshot)).Faithful := by
  have sound := h.sound.act (.parseNow snapshot)
  by_cases gone : j.service.dropped
  · have same : j.act (.parseNow snapshot) = j := by
      simp [Journal.act, Chronicle.act, Chronicle.call, gone]
    rw [same]
    exact h
  · have parsed : j.act (.parseNow snapshot) = { j with
        toChronicle := { j.toChronicle with service := (j.service.parseNow snapshot).2 }
        blocking := j.blocking ++ [snapshot] } := by
      simp [Journal.act, Chronicle.act, Chronicle.call, gone]
    have called : j.toChronicle.act (.parseNow snapshot) = { j.toChronicle with
        service := (j.service.parseNow snapshot).2 } := if_neg gone
    rw [called] at sound
    rw [parsed]
    exact {
      sound
      begun := h.begun
      ended := h.ended
      published := h.published
      ascending := h.ascending
      fresh := h.fresh
      completed := h.completed
      started := by
        show j.service.started + 1 = _
        rw [h.started, List.length_append]
        rfl }

theorem Faithful.take (h : j.Faithful) (id : ListenerId) : (j.act (.take id)).Faithful := by
  have sound := h.sound.takeOldest id
  show Faithful { j with
    toChronicle := { j.toChronicle with service := Chronicle.takeOldest id j.service } }
  unfold Chronicle.takeOldest at sound ⊢
  split at sound <;> exact h.quiet sound rfl rfl rfl rfl rfl rfl

theorem Faithful.act (h : j.Faithful) (a : ServiceAct) : (j.act a).Faithful := by
  have sound : (j.toChronicle.act a).Sound := h.sound.act a
  cases a with
  | request snapshot => exact h.request snapshot
  | parseNow snapshot => exact h.parseNow snapshot
  | subscribe => exact h.call (fun s => s.subscribe.2) sound rfl rfl rfl rfl
  | dropListener id => exact h.quiet sound rfl rfl rfl rfl rfl rfl
  | take id => exact h.take id
  | countListeners => exact h.call (fun s => s.listenerCount.2) sound rfl rfl rfl rfl
  | shutdown => exact h.call Service.shutdown sound rfl rfl rfl rfl
  | drop => exact h.call Service.drop sound rfl rfl rfl rfl
  | loop m => exact h.move m
  | turnGrammar grammar => exact h.quiet sound rfl rfl rfl rfl rfl rfl

theorem faithful_course (grammar : Grammar) (acts : List ServiceAct) :
    (course grammar acts).Faithful := by
  have run : ∀ j : Journal, j.Faithful → (acts.foldl Journal.act j).Faithful := by
    induction acts with
    | nil => exact fun _ h => h
    | cons a rest ih => exact fun j h => ih (j.act a) (h.act a)
  exact run _ (faithful_start grammar)

/-- Whatever happens to a service: what it published are outlines of requests, at most one
of each request and in the order of the requests.  A publication and its outline have the
version of the request, and all else is what the grammar answered to it.  The versions never
decrease, and as many outlines were published as the service counts.  Of the parses that
the loop began all ended but one at most.  The grammar was called for these and for callers,
and not otherwise. -/
theorem published_in_order (grammar : Grammar) (acts : List ServiceAct) :
    let j := course grammar acts
    (∃ shown, shown.Sublist j.ended ∧ List.Forall₂ Publication.Shows shown j.published ∧
      (shown.map fun parse => parse.pickUp.snapshot).Sublist j.requested ∧
      (shown.map fun parse => parse.pickUp.number).Pairwise (· < ·) ∧
      ∀ parse ∈ shown, 0 < parse.pickUp.number ∧
        j.requested[parse.pickUp.number - 1]? = some parse.pickUp.snapshot) ∧
    (j.published.map fun q => q.completion.version).Pairwise (· ≤ ·) ∧
    j.service.completed = j.published.length ∧
    (∃ underWay : Option PickUp, j.begun = j.ended.map Parse.pickUp ++ underWay.toList) ∧
    j.service.started = j.begun.length + j.blocking.length := by
  intro j
  have faithful : j.Faithful := faithful_course grammar acts
  obtain ⟨shown, part, shows⟩ := faithful.published
  have picked : (shown.map Parse.pickUp).Sublist j.picked := by
    refine (part.map Parse.pickUp).trans (.trans ?_ faithful.begun)
    rw [faithful.ended]
    exact List.sublist_append_left _ _
  refine ⟨⟨shown, part, shows, ?_, ?_, ?_⟩, faithful.ascending, faithful.completed,
    ⟨j.underWay, faithful.ended⟩, faithful.started⟩
  · have requested := (picked.map PickUp.snapshot).trans (sublist_requested faithful.sound)
    rwa [List.map_map] at requested
  · have ascending := faithful.sound.ascending.sublist (picked.map PickUp.number)
    rwa [List.map_map] at ascending
  · exact fun parse mem => faithful.sound.genuine _ (picked.subset (List.mem_map_of_mem mem))

end Journal

end OutlineBar
