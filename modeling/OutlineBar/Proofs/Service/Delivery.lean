/-
What the receivers of a service are given.

The main statement is `delivered_exactly`.  What the loop published is what the grammar
answered while the loop was not told to end, each outline once and in that order.  What a
receiver was given, followed by what is queued for it, is what was published since it came;
and the service counts the receivers that were not dropped.

The invariant `Serves` looks at the listeners, the publications and the receivers only.  It
says that the listeners that are open are the receivers that were not dropped, in the same
order, so that forgetting the others changes neither a queue nor the count.  That the
publications are what the loop owes is `published_run`, which counts them against the
answers of the grammar and not against what a listener heard.
-/
import OutlineBar.Proofs.Service.Ledger

namespace OutlineBar

namespace Broadcast

/-- The names of the listeners that were not dropped. -/
def openNames (b : Broadcast) : List ListenerId :=
  (b.listeners.filter Listener.isOpen).map Listener.id

theorem mem_openNames {id : ListenerId} {b : Broadcast} : id ∈ b.openNames ↔ b.Hears id := by
  constructor
  · intro named
    obtain ⟨l, listed, rfl⟩ := List.mem_map.mp named
    obtain ⟨mem, runs⟩ := List.mem_filter.mp listed
    exact ⟨l, mem, rfl, runs⟩
  · rintro ⟨l, mem, rfl, runs⟩
    exact List.mem_map_of_mem (List.mem_filter.mpr ⟨mem, runs⟩)

theorem fst_count (b : Broadcast) : b.count.1 = b.openNames.length := List.length_map _ |>.symm

theorem fst_publish (b : Broadcast) (completion : Completion) :
    (b.publish completion).1 = b.openNames.length := List.length_map _ |>.symm

theorem openNames_subscribe (b : Broadcast) :
    b.subscribe.2.openNames = b.openNames ++ [b.subscribe.1] := by
  simp [openNames, subscribe]

/-- A change of listeners that keeps names and marks keeps the names of the open ones. -/
theorem openNames_map (b : Broadcast) (change : Listener → Listener)
    (same : ∀ l, (change l).id = l.id ∧ (change l).isOpen = l.isOpen) :
    openNames { b with listeners := b.listeners.map change } = b.openNames := by
  have marks : Listener.isOpen ∘ change = Listener.isOpen := funext fun l => (same l).2
  have names : Listener.id ∘ change = Listener.id := funext fun l => (same l).1
  unfold openNames
  rw [List.filter_map, List.map_map, marks, names]

theorem openNames_prune (b : Broadcast) : b.prune.openNames = b.openNames := by
  simp [openNames, prune]

theorem openNames_publish (b : Broadcast) (completion : Completion) :
    (b.publish completion).2.openNames = b.openNames :=
  (b.prune.openNames_map (fun l => { l with queue := l.queue ++ [completion] })
    fun _ => ⟨rfl, rfl⟩).trans b.openNames_prune

theorem openNames_drop (id : ListenerId) (b : Broadcast) :
    (b.drop id).openNames = b.openNames.filter (· ≠ id) := by
  unfold openNames drop update
  induction b.listeners with
  | nil => rfl
  | cons l rest ih =>
    by_cases named : l.id = id <;> cases runs : l.isOpen <;> simp_all

theorem openNames_take {id : ListenerId} {b b' : Broadcast} {completion : Completion}
    (taken : b.take? id = some (completion, b')) : b'.openNames = b.openNames := by
  unfold take? at taken
  split at taken
  · cases taken
    refine b.openNames_map _ fun l => ?_
    split <;> exact ⟨rfl, rfl⟩
  · cases taken

theorem queue_prune (id : ListenerId) (b : Broadcast) : b.prune.queue id = b.queue id := by
  rw [queue_eq, queue_eq, find?_prune]

theorem queue_subscribe {id : ListenerId} {b : Broadcast} (ne : id ≠ b.subscribe.1) :
    b.subscribe.2.queue id = b.queue id := by
  have other : ¬ (decide ((⟨b.nextIndex⟩ : ListenerId) = id) && true) = true := by
    rw [Bool.and_true, decide_eq_true_eq]
    exact fun e => ne e.symm
  rw [queue_eq, queue_eq]
  unfold find? subscribe
  rw [List.find?_append, List.find?_singleton, if_neg other, Option.or_none]

theorem queue_drop {id id' : ListenerId} (ne : id' ≠ id) (b : Broadcast) :
    (b.drop id).queue id' = b.queue id' := by
  rw [queue_eq, queue_eq]
  congr 2
  unfold find? drop update
  induction b.listeners with
  | nil => rfl
  | cons l rest ih =>
    rw [List.map_cons, List.find?_cons, List.find?_cons, ih]
    by_cases gone : l.id = id
    · have other : l.id ≠ id' := fun e => ne (e.symm.trans gone)
      simp [gone, gone ▸ other]
    · simp [gone]

theorem nextIndex_take {id : ListenerId} {b b' : Broadcast} {completion : Completion}
    (taken : b.take? id = some (completion, b')) : b'.nextIndex = b.nextIndex := by
  unfold take? at taken
  split at taken <;> cases taken
  rfl

end Broadcast

/-! ## The invariant -/

/-- Listeners serve receivers exactly. -/
structure Serves (b : Broadcast) (published : List Publication) (receivers : List Receiver) :
    Prop where
  ordered : b.Ordered
  named : ∀ r ∈ receivers, r.id.index < b.nextIndex
  distinct : (receivers.map Receiver.id).Nodup
  opened : b.openNames = (receivers.filter fun r => !r.dropped).map Receiver.id
  since_le : ∀ r ∈ receivers, r.since ≤ published.length
  exact : ∀ r ∈ receivers, r.dropped = false →
    r.got ++ b.queue r.id = (published.drop r.since).map Publication.completion

namespace Serves

variable {b : Broadcast} {published : List Publication} {receivers : List Receiver}

theorem hears (h : Serves b published receivers) {r : Receiver} (mem : r ∈ receivers)
    (remains : r.dropped = false) : b.Hears r.id := by
  rw [← Broadcast.mem_openNames, h.opened]
  exact List.mem_map_of_mem (List.mem_filter.mpr ⟨mem, by simp [remains]⟩)

theorem subscribe (h : Serves b published receivers) :
    Serves b.subscribe.2 published
      (receivers ++ [{ id := b.subscribe.1, since := published.length }]) where
  ordered := h.ordered.subscribe
  named := by
    intro r mem
    rcases List.mem_append.mp mem with old | new
    · exact Nat.lt_succ_of_lt (h.named r old)
    · rw [List.mem_singleton.mp new]
      exact Nat.lt_succ_self _
  distinct := by
    rw [List.map_append, List.nodup_append]
    refine ⟨h.distinct, List.pairwise_singleton _ _, ?_⟩
    intro id old id' new
    obtain ⟨r, mem, rfl⟩ := List.mem_map.mp old
    cases List.mem_singleton.mp new
    intro e
    have := h.named r mem
    rw [e] at this
    exact Nat.lt_irrefl _ this
  opened := by
    rw [Broadcast.openNames_subscribe, h.opened, List.filter_append, List.map_append]
    rfl
  since_le := by
    intro r mem
    rcases List.mem_append.mp mem with old | new
    · exact h.since_le r old
    · cases List.mem_singleton.mp new
      exact Nat.le_refl _
  exact := by
    intro r mem remains
    rcases List.mem_append.mp mem with old | new
    · have ne : r.id ≠ b.subscribe.1 := by
        intro e
        have := h.named r old
        rw [e] at this
        exact Nat.lt_irrefl _ this
      rw [Broadcast.queue_subscribe ne]
      exact h.exact r old remains
    · rw [List.mem_singleton.mp new]
      show [] ++ b.subscribe.2.queue b.subscribe.1 = _
      rw [Broadcast.queue_subscribe_self h.ordered, List.drop_length]
      rfl

theorem prune (h : Serves b published receivers) : Serves b.prune published receivers where
  ordered := h.ordered.prune
  named := h.named
  distinct := h.distinct
  opened := by rw [Broadcast.openNames_prune, h.opened]
  since_le := h.since_le
  exact := by
    intro r mem remains
    rw [Broadcast.queue_prune]
    exact h.exact r mem remains

theorem publish (h : Serves b published receivers) (q : Publication) :
    Serves (b.publish q.completion).2 (published ++ [q]) receivers where
  ordered := h.ordered.publish q.completion
  named := h.named
  distinct := h.distinct
  opened := by rw [Broadcast.openNames_publish, h.opened]
  since_le := by
    intro r mem
    rw [List.length_append]
    exact Nat.le_trans (h.since_le r mem) (Nat.le_add_right _ _)
  exact := by
    intro r mem remains
    rw [Broadcast.queue_publish (h.hears mem remains), ← List.append_assoc,
      h.exact r mem remains, List.drop_append_of_le_length (h.since_le r mem), List.map_append]
    rfl

/-- What a change of some receivers and of their listeners has to show. -/
theorem update (h : Serves b published receivers) {b' : Broadcast} (ordered : b'.Ordered)
    (sameNext : b'.nextIndex = b.nextIndex) {change : Receiver → Receiver}
    (sameId : ∀ r, (change r).id = r.id) (sameSince : ∀ r, (change r).since = r.since)
    (opened : b'.openNames =
      ((receivers.map change).filter fun r => !r.dropped).map Receiver.id)
    (exact : ∀ r ∈ receivers, (change r).dropped = false → r.dropped = false ∧
      (change r).got ++ b'.queue r.id = r.got ++ b.queue r.id) :
    Serves b' published (receivers.map change) where
  ordered := ordered
  named := by
    intro r mem
    obtain ⟨before, old, rfl⟩ := List.mem_map.mp mem
    rw [sameId, sameNext]
    exact h.named before old
  distinct := by
    have ids : Receiver.id ∘ change = Receiver.id := funext sameId
    rw [List.map_map, ids]
    exact h.distinct
  opened := opened
  since_le := by
    intro r mem
    obtain ⟨before, old, rfl⟩ := List.mem_map.mp mem
    rw [sameSince]
    exact h.since_le before old
  exact := by
    intro r mem remains
    obtain ⟨before, old, rfl⟩ := List.mem_map.mp mem
    obtain ⟨remained, same⟩ := exact before old remains
    rw [sameId, sameSince, same]
    exact h.exact before old remained

theorem drop (h : Serves b published receivers) (id : ListenerId) :
    Serves (b.drop id) published (Ledger.without id receivers) := by
  have ordered : (b.drop id).Ordered := h.ordered.update id fun _ => rfl
  refine h.update ordered rfl ?_ ?_ ?_ ?_
  · intro r
    split <;> rfl
  · intro r
    split <;> rfl
  · rw [Broadcast.openNames_drop, h.opened]
    clear h
    induction receivers with
    | nil => rfl
    | cons r rest ih =>
      by_cases named : r.id = id <;> cases remains : r.dropped <;> simp_all
  · intro r _ remains
    by_cases named : r.id = id
    · rw [if_pos named] at remains
      cases remains
    · rw [if_neg named] at remains ⊢
      exact ⟨remains, by rw [Broadcast.queue_drop named]⟩

theorem take (h : Serves b published receivers) {id : ListenerId} {completion : Completion}
    {b' : Broadcast} (taken : b.take? id = some (completion, b')) :
    Serves b' published (Ledger.given id [completion] receivers) := by
  refine h.update (h.ordered.take taken) (Broadcast.nextIndex_take taken) ?_ ?_ ?_ ?_
  · intro r
    split <;> rfl
  · intro r
    split <;> rfl
  · rw [Broadcast.openNames_take taken, h.opened]
    clear h
    induction receivers with
    | nil => rfl
    | cons r rest ih =>
      by_cases named : r.id = id <;> cases remains : r.dropped <;> simp_all
  · intro r _ remains
    by_cases named : r.id = id
    · rw [if_pos named] at remains ⊢
      have front := Broadcast.queue_take_self taken
      rw [named, front]
      exact ⟨remains, List.append_assoc _ _ _⟩
    · rw [if_neg named] at remains ⊢
      exact ⟨remains, by rw [Broadcast.queue_take_of_ne named taken]⟩

end Serves

/-- A move of the loop publishes the completion that it has to announce to all listeners, and
leaves them and the publications alone if there is none. -/
theorem Chronicle.published_of_move {c : Chronicle} (ordered : c.service.broadcast.Ordered)
    (m : LoopMove) :
    (∃ q : Publication, c.service.announces m = some q.completion ∧
      (c.move m).published = c.published ++ [q] ∧
      (c.move m).service.broadcast = (c.service.broadcast.publish q.completion).2 ∧
      (c.move m).service.completed = c.service.completed + 1) ∨
    c.service.announces m = none ∧ (c.move m).published = c.published ∧
      (c.move m).service.broadcast = c.service.broadcast ∧
      (c.move m).service.completed = c.service.completed := by
  cases possible : c.service.move? m with
  | none =>
    have same : c.move m = c := by
      unfold move
      rw [possible]
    have nothing : c.service.announces m = none := by
      unfold Service.announces Service.ends
      rw [possible]
      rfl
    rw [same]
    exact .inr ⟨nothing, rfl, rfl, rfl⟩
  | some next =>
    have moves := Service.moves_of_move? possible
    have e := move_of_moves moves
    have quiet (kept : next.1.completed = c.service.completed)
        (same : next.1.broadcast = c.service.broadcast) :
        c.service.announces m = none ∧ (c.move m).published = c.published ∧
          (c.move m).service.broadcast = c.service.broadcast ∧
          (c.move m).service.completed = c.service.completed := by
      rw [e, Service.heard_of_silent ordered moves kept]
      exact ⟨Service.announces_of_silent moves kept, List.append_nil _, same, kept⟩
    generalize next.1 = s, next.2 = events at moves e quiet
    have moved := moves
    cases moves with
    | @publish snapshot outline parses outlined runs =>
      refine .inl ⟨⟨c.current, .of outline⟩,
        Service.announces_of_publish moved parses outlined runs, ?_, ?_, ?_⟩
      · rw [e, Service.heard_of_publish ordered parses outlined runs]
        rfl
      · rw [e]
        rfl
      · rw [e]
        rfl
    | wake => exact .inr (quiet rfl rfl)
    | nothing => exact .inr (quiet rfl rfl)
    | skip => exact .inr (quiet rfl rfl)
    | parse => exact .inr (quiet rfl rfl)
    | withhold => exact .inr (quiet rfl rfl)
    | panic => exact .inr (quiet rfl rfl)
    | leave => exact .inr (quiet rfl rfl)

namespace Ledger

/-- What holds after every course. -/
def Exact (l : Ledger) : Prop := Serves l.service.broadcast l.published l.receivers

theorem exact_start (grammar : Grammar) : (start grammar).Exact where
  ordered := Broadcast.ordered_empty
  named := nofun
  distinct := .nil
  opened := rfl
  since_le := nofun
  exact := nofun

variable {l : Ledger}

/-- Calls are made until the service is dropped. -/
theorem Exact.call (h : l.Exact) (change : Service → Service)
    (serves : Serves (change l.service).broadcast l.published l.receivers) :
    Exact { l with toChronicle := l.toChronicle.call change } := by
  unfold Chronicle.call
  split
  · exact h
  · exact serves

theorem Exact.subscribe (h : l.Exact) : (l.turn (.act .subscribe)).Exact := by
  by_cases gone : l.service.dropped
  · have same : l.turn (.act .subscribe) = l := by
      simp [turn, Chronicle.act, Chronicle.call, gone]
    rw [same]
    exact h
  · have added : l.turn (.act .subscribe) = { l with
        service := l.service.subscribe.2
        receivers := l.receivers ++
          [{ id := l.service.subscribe.1, since := l.published.length }] } := by
      simp [turn, Chronicle.act, Chronicle.call, gone]
    rw [added]
    exact Serves.subscribe h

theorem Exact.take (h : l.Exact) (id : ListenerId) : (l.turn (.act (.take id))).Exact := by
  show Serves (Chronicle.takeOldest id l.service).broadcast l.published
    (given id ((l.service.broadcast.take? id).map Prod.fst).toList l.receivers)
  unfold Chronicle.takeOldest
  cases taken : l.service.broadcast.take? id with
  | none =>
    show Serves _ _ (given id [] l.receivers)
    rw [given_nil]
    exact h
  | some next => exact Serves.take h taken

theorem Exact.next (h : l.Exact) (id : ListenerId) : (l.turn (.next id)).Exact := by
  have same : l.turn (.next id) = l.turn (.act (.take id)) := by
    show { l with
      service := (l.service.next id).2
      receivers := given id (brought (l.service.next id).1) l.receivers } = _
    rw [snd_next, brought_next]
    rfl
  rw [same]
  exact h.take id

theorem Exact.move (h : l.Exact) (m : LoopMove) : (l.turn (.act (.loop m))).Exact := by
  show Serves (l.toChronicle.move m).service.broadcast (l.toChronicle.move m).published
    l.receivers
  rcases Chronicle.published_of_move h.ordered m with
    ⟨q, -, published, broadcast, -⟩ | ⟨-, published, broadcast, -⟩
  · rw [published, broadcast]
    exact Serves.publish h q
  · rw [published, broadcast]
    exact h

theorem Exact.turn (h : l.Exact) (t : Turn) : (l.turn t).Exact := by
  cases t with
  | next id => exact h.next id
  | act a =>
    cases a with
    | request snapshot =>
      show Serves (l.toChronicle.request snapshot).service.broadcast
        (l.toChronicle.request snapshot).published l.receivers
      unfold Chronicle.request
      split <;> exact h
    | parseNow snapshot => exact h.call (fun s => (s.parseNow snapshot).2) h
    | subscribe => exact h.subscribe
    | dropListener id => exact Serves.drop h id
    | take id => exact h.take id
    | countListeners => exact h.call (fun s => s.listenerCount.2) (Serves.prune h)
    | shutdown => exact h.call Service.shutdown h
    | drop => exact h.call Service.drop h
    | loop m => exact h.move m
    | turnGrammar grammar => exact h

theorem Exact.run (h : l.Exact) (turns : List Turn) : (turns.foldl Ledger.turn l).Exact := by
  induction turns generalizing l with
  | nil => exact h
  | cons t rest ih => exact ih (h.turn t)

theorem exact_course (grammar : Grammar) (turns : List Turn) : (course grammar turns).Exact :=
  (exact_start grammar).run turns

/-! ## What the loop owes -/

/-- A turn publishes and counts what it has to announce, and nothing else. -/
theorem Exact.published_turn (h : l.Exact) (t : Turn) :
    (l.turn t).published.map Publication.completion =
        l.published.map Publication.completion ++ (l.announces t).toList ∧
      (l.turn t).service.completed = l.service.completed + (l.announces t).toList.length := by
  cases is : t.move? with
  | none =>
    have aside := l.turn_aside is
    have nothing : l.announces t = none := by
      unfold announces
      rw [is]
      rfl
    rw [aside.published, aside.completed, nothing]
    exact ⟨(List.append_nil _).symm, rfl⟩
  | some m =>
    obtain rfl := Turn.eq_of_move? is
    show (l.toChronicle.move m).published.map Publication.completion =
        l.published.map Publication.completion ++ (l.service.announces m).toList ∧
      (l.toChronicle.move m).service.completed =
        l.service.completed + (l.service.announces m).toList.length
    rcases Chronicle.published_of_move h.ordered m with
      ⟨q, announces, published, -, completed⟩ | ⟨announces, published, -, completed⟩
    · rw [announces, published, completed, List.map_append]
      exact ⟨rfl, rfl⟩
    · rw [announces, published, completed]
      exact ⟨(List.append_nil _).symm, rfl⟩

theorem Exact.published_run (h : l.Exact) (turns : List Turn) :
    (turns.foldl Ledger.turn l).published.map Publication.completion =
        l.published.map Publication.completion ++ l.announced turns ∧
      (turns.foldl Ledger.turn l).service.completed =
        l.service.completed + (l.announced turns).length := by
  induction turns generalizing l with
  | nil => exact ⟨(List.append_nil _).symm, rfl⟩
  | cons t rest ih =>
    obtain ⟨published, completed⟩ := h.published_turn t
    obtain ⟨published', completed'⟩ := ih (h.turn t)
    refine ⟨?_, ?_⟩
    · rw [List.foldl_cons, published', published, List.append_assoc]
      rfl
    · rw [List.foldl_cons, completed', completed, announced, List.length_append, Nat.add_assoc]

theorem published_course (grammar : Grammar) (turns : List Turn) :
    (course grammar turns).published.map Publication.completion =
        (start grammar).announced turns ∧
      (course grammar turns).service.completed = ((start grammar).announced turns).length := by
  obtain ⟨published, completed⟩ := (exact_start grammar).published_run turns
  exact ⟨published, completed.trans (Nat.zero_add _)⟩

/-- What becomes of a receiver that comes, whatever happens after it came. -/
theorem Exact.subscribed (h : l.Exact) (lives : l.service.dropped = false) (after : List Turn) :
    let came := l.turn (.act .subscribe)
    let now := after.foldl Ledger.turn came
    ∃ r ∈ now.receivers, r.id = l.service.subscribe.1 ∧ r.since = l.published.length ∧
      (r.dropped = true ↔ .act (.dropListener r.id) ∈ after) ∧
      (r.dropped = false → now.delivered r = came.announced after) := by
  intro came now
  have listed : { id := l.service.subscribe.1, since := l.published.length } ∈ came.receivers := by
    show _ ∈ if l.service.dropped then l.receivers else _
    rw [lives]
    exact List.mem_append_right _ (List.mem_singleton.mpr rfl)
  obtain ⟨r, mem, named, since, dropped⟩ := mem_run listed after
  refine ⟨r, mem, named, since, by simp [dropped, named], fun remains => ?_⟩
  have exact : came.Exact := h.turn (.act .subscribe)
  have published : came.published = l.published := (l.turn_aside rfl).published
  show r.got ++ now.service.broadcast.queue r.id = _
  rw [(exact.run after).exact r mem remains, List.map_drop, (exact.published_run after).1, since,
    published, ← List.length_map Publication.completion, List.drop_left]

/-- What a receiver gets for a publication that it was there for. -/
theorem Exact.delivered_getElem? (h : l.Exact) {r : Receiver} (mem : r ∈ l.receivers)
    (remains : r.dropped = false) {k : Nat} (since : r.since ≤ k) :
    (l.delivered r)[k - r.since]? = l.published[k]?.map Publication.completion := by
  have place : r.since + (k - r.since) = k := by omega
  unfold delivered
  rw [h.exact r mem remains, List.getElem?_map, List.getElem?_drop, place]

/-- What a receiver gets when it asks. -/
theorem Exact.take?_eq (h : l.Exact) {r : Receiver} (mem : r ∈ l.receivers)
    (remains : r.dropped = false) :
    (l.service.broadcast.take? r.id).map Prod.fst =
      l.published[r.since + r.got.length]?.map Publication.completion := by
  have there := h.delivered_getElem? mem remains (Nat.le_add_right r.since r.got.length)
  rw [Nat.add_sub_cancel_left] at there
  unfold delivered at there
  rw [List.getElem?_append_right (Nat.le_refl _), Nat.sub_self] at there
  rw [← there]
  unfold Broadcast.take?
  cases l.service.broadcast.queue r.id <;> rfl

/-- Whatever happens to a service and its receivers: what was published is what the grammar
answered while the loop was not told to end, each outline once and in that order, and the
service counts as many.

Every receiver has a name of its own.  What was given to a receiver that was not dropped,
followed by what is queued for it, is what was published since it was subscribed, in that
order; so two receivers get the same completion, with the same outline, for each publication
that both were there for.  What a receiver gets when it asks is the first publication that it
was not given yet.

Whoever subscribes before the service is dropped, also while a parse is under way, is on
record ever after and dropped by dropping it only; until then it is given what the grammar
answers from that moment on.  Both the answer about listeners and the number reported with a
publication are the number of receivers that were not dropped. -/
theorem delivered_exactly (grammar : Grammar) (turns : List Turn) :
    let l := course grammar turns
    l.published.map Publication.completion = (start grammar).announced turns ∧
    l.service.completed = l.published.length ∧
    (l.receivers.map Receiver.id).Nodup ∧
    (∀ r ∈ l.remaining,
      l.delivered r = (l.published.drop r.since).map Publication.completion) ∧
    (∀ r ∈ l.remaining, ∀ r' ∈ l.remaining, ∀ k, r.since ≤ k → r'.since ≤ k →
      (l.delivered r)[k - r.since]? = (l.delivered r')[k - r'.since]?) ∧
    (∀ r ∈ l.remaining,
      (l.service.broadcast.take? r.id).map Prod.fst =
        (l.published[r.since + r.got.length]?).map Publication.completion ∧
      brought (l.service.next r.id).1 =
        ((l.published[r.since + r.got.length]?).map Publication.completion).toList) ∧
    (∀ before after, turns = before ++ .act .subscribe :: after →
      let earlier := course grammar before
      earlier.service.dropped = false →
      ∃ r ∈ l.receivers, r.id = earlier.service.subscribe.1 ∧
        r.since = ((start grammar).announced before).length ∧
        (r.dropped = true ↔ .act (.dropListener r.id) ∈ after) ∧
        (r.dropped = false →
          l.delivered r = (earlier.turn (.act .subscribe)).announced after)) ∧
    l.service.listenerCount.1 = l.remaining.length ∧
    ∀ completion, (l.service.broadcast.publish completion).1 = l.remaining.length := by
  intro l
  have exact : l.Exact := exact_course grammar turns
  obtain ⟨published, completed⟩ := published_course grammar turns
  have count : l.service.broadcast.openNames.length = l.remaining.length := by
    rw [exact.opened, List.length_map]
    rfl
  refine ⟨published, ?_, exact.distinct, ?_, ?_, ?_, ?_, ?_, ?_⟩
  · rw [completed, ← published, List.length_map]
  · intro r mem
    obtain ⟨mem, remains⟩ := mem_remaining.mp mem
    exact exact.exact r mem remains
  · intro r mem r' mem' k since since'
    obtain ⟨mem, remains⟩ := mem_remaining.mp mem
    obtain ⟨mem', remains'⟩ := mem_remaining.mp mem'
    rw [exact.delivered_getElem? mem remains since, exact.delivered_getElem? mem' remains' since']
  · intro r mem
    obtain ⟨mem, remains⟩ := mem_remaining.mp mem
    have asked := exact.take?_eq mem remains
    exact ⟨asked, by rw [brought_next, asked]⟩
  · intro before after split earlier lives
    have run : l = after.foldl turn (earlier.turn (.act .subscribe)) := by
      show course grammar turns = _
      rw [split, course_append]
      rfl
    have many : earlier.published.length = ((start grammar).announced before).length := by
      rw [← (published_course grammar before).1, List.length_map]
    rw [run, ← many]
    exact (exact_course grammar before).subscribed lives after
  · exact (Broadcast.fst_count _).trans count
  · exact fun completion => (Broadcast.fst_publish _ completion).trans count

/-- Three receivers.  The first is there from the start and is given both outlines, one of
them before the second parse ends.  The second is dropped while that parse is under way.  The
third comes while it is under way, and is given its outline and not the one before. -/
theorem delivered_exactly_amid_parse :
    let grammar : Grammar := fun _ => .ok (.empty 0 0)
    let before : List Turn := [.act .subscribe, .act .subscribe, .act (.request ⟨1, "a"⟩),
      .act (.loop .wake), .act (.loop .pick), .act (.loop .finish), .act (.request ⟨2, "b"⟩),
      .act (.loop .wake), .act (.loop .pick)]
    let after : List Turn := [.next ⟨0⟩, .act (.dropListener ⟨1⟩), .act (.loop .finish)]
    let l := course grammar (before ++ .act .subscribe :: after)
    let first : Completion := ⟨1, .empty 1 0⟩
    let second : Completion := ⟨2, .empty 2 0⟩
    let early : Receiver := { id := ⟨0⟩, since := 0, got := [first] }
    let gone : Receiver := { id := ⟨1⟩, since := 0, dropped := true }
    let late : Receiver := { id := ⟨2⟩, since := 1 }
    (course grammar before).service.phase = .parsing ⟨2, "b"⟩ ∧
    l.published.map Publication.completion = [first, second] ∧ l.service.completed = 2 ∧
    l.receivers = [early, gone, late] ∧ l.remaining = [early, late] ∧
    l.delivered early = [first, second] ∧ l.delivered late = [second] ∧
    l.service.listenerCount.1 = 2 := by
  intro grammar before after l first second early gone late
  have served := delivered_exactly grammar (before ++ .act .subscribe :: after)
  dsimp only [l, first, second, early, gone, late, before, after, grammar] at served ⊢
  obtain ⟨published, completed, -, delivered, -, -, came, count, -⟩ := served
  obtain ⟨r, mem, named, -, -, given⟩ := came _ _ rfl rfl
  -- The receiver that came amid the parse is told from the others by its name.
  have isLate : r = { id := ⟨2⟩, since := 1 } := by
    obtain _ | ⟨_, _ | ⟨_, _ | ⟨_, none⟩⟩⟩ := mem
    · cases named
    · cases named
    · rfl
    · cases none
  rw [isLate] at given
  exact ⟨rfl, published, completed, rfl, rfl, delivered _ List.mem_cons_self, given rfl, count⟩

end Ledger

end OutlineBar
