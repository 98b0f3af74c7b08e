/-
A window beside others.

A window does on its desk what it would do if it were alone, whatever other windows did before:
it answers the same, makes the same calls and uses its outliner in the same way.  `Beside` says
so of two desks of one presenter, one of which has had other windows for company, and all that
attaching, detaching and draining are made of keeps it.
-/
import OutlineBar.Proofs.Host.Separate
import OutlineBar.Proofs.Outliner.Use
import OutlineBar.Proofs.Presenter.Steady

namespace OutlineBar

/-- What a presenter did: the calls that it made, its uses of the outliner, and what it noted. -/
structure Deeds where
  exchanges : List Exchange := []
  uses : List OutlinerUse := []
  events : List Event := []

/-- Whether deeds are those of a presenter with what is its own. -/
structure Deeds.IsOf (maker : ClientId → FactoryId) (p : Presenter) (deeds : Deeds) : Prop where
  calls : ∀ x ∈ deeds.exchanges, x.1.IsOwn (p.Owns maker) p
  takes : ∀ id, .take id ∈ deeds.uses → id = p.listener

theorem Outliner.Sound.use {o : Outliner} (sound : o.Sound) (u : OutlinerUse) :
    (o.use u).Sound := by
  cases u with
  | parse => cases o <;> exact sound
  | take id => exact sound.withBroadcast _

namespace Desk

open OutlineBar.Action

variable {η : Type} {H : Host η} {maker : ClientId → FactoryId} {p : Presenter}
  {start start' d e : Desk (Recorded η)} {caller : Option PresenterId} {deeds : Deeds}

/-- Whether deeds led from one desk to another. -/
structure Did (H : Host η) (start d : Desk (Recorded η)) (deeds : Deeds) : Prop where
  host : d.host.host = H.afterAll deeds.exchanges start.host.host
  log : exchangesIn d.host.log = exchangesIn start.host.log ++ deeds.exchanges
  outliner : d.outliner = start.outliner.useAll deeds.uses
  trace : d.trace = start.trace ++ deeds.events

namespace Did

theorem refl (H : Host η) (d : Desk (Recorded η)) : Did H d d {} :=
  ⟨rfl, (List.append_nil _).symm, rfl, (List.append_nil _).symm⟩

theorem call (did : Did H start d deeds) {call : HostCall} {a : call.Answer} {host : Recorded η}
    (answered : (H.recorded caller).answer call d.host = .ok a host) :
    Did H start { d with host }
      { deeds with exchanges := deeds.exchanges ++ [⟨call, .ok a⟩] } where
  host := by
    rw [Host.afterAll_concat, ← did.host]
    exact (after_of_ok (Host.recorded_ok answered).1).symm
  log := by
    rw [← List.append_assoc, ← did.log]
    exact Host.exchangesIn_recorded answered
  outliner := did.outliner
  trace := did.trace

theorem use (did : Did H start d deeds) (u : OutlinerUse) :
    Did H start { d with outliner := d.outliner.use u }
      { deeds with uses := deeds.uses ++ [u] } where
  host := did.host
  log := did.log
  outliner := by
    rw [Outliner.useAll_concat, ← did.outliner]
  trace := did.trace

theorem note (did : Did H start d deeds) (event : Event) :
    Did H start { d with trace := d.trace ++ [event] }
      { deeds with events := deeds.events ++ [event] } where
  host := did.host
  log := did.log
  outliner := did.outliner
  trace := by
    rw [did.trace, List.append_assoc]

end Did

/-- Whether two desks of a presenter that was opened as `p` show the same to it, and what it did
since `start` and `start'` was the same. -/
structure Beside (H : Host η) (maker : ClientId → FactoryId) (p : Presenter)
    (start start' d e : Desk (Recorded η)) : Prop where
  presenter : e.presenter = d.presenter
  bag : e.bag = d.bag
  fixed : d.presenter.fixed = p.fixed
  owns : ∀ client, d.presenter.client = some client → p.Owns maker client
  sound : d.outliner.Sound
  outliner : Outliner.SameFor p.listener d.outliner e.outliner
  host : ∃ change : η → η, e.host.host = change d.host.host ∧
    ∀ call : HostCall, call.IsOwn (p.Owns maker) p → Through change (H.answer call)
  did : ∃ deeds : Deeds, deeds.IsOf maker p ∧ Did H start d deeds ∧ Did H start' e deeds

theorem Beside.use (b : Beside H maker p start start' d e) {u : OutlinerUse}
    (mine : ∀ id, u = .take id → id = p.listener) :
    Beside H maker p start start' { d with outliner := d.outliner.use u }
      { e with outliner := e.outliner.use u } where
  presenter := b.presenter
  bag := b.bag
  fixed := b.fixed
  owns := b.owns
  sound := b.sound.use u
  outliner := b.outliner.use u
  host := b.host
  did := by
    obtain ⟨deeds, ⟨calls, takes⟩, did, did'⟩ := b.did
    refine ⟨{ deeds with uses := deeds.uses ++ [u] }, ⟨calls, fun id mem => ?_⟩, did.use u,
      did'.use u⟩
    rcases List.mem_append.mp mem with mem | mem
    · exact takes id mem
    · exact mine id (List.mem_singleton.mp mem).symm

theorem paired_beside (steady : H.Steady) (separate : H.Separate maker)
    (caller : Option PresenterId) (p : Presenter) (start start' : Desk (Recorded η)) :
    Paired (H.recorded caller) (p.Owns maker) p (Beside H maker p start start') where
  fixed b := b.fixed
  presenter b := b.presenter
  owns b attached := b.owns _ attached
  made created := separate.made (Host.recorded_ok created).1
  call {d e call} b isOwn := by
    obtain ⟨change, moved, through⟩ := b.host
    obtain ⟨a, host, answered⟩ := steady.recorded caller call d.host
    have answered' : H.answer call e.host.host = .ok a (change host.host) := by
      rw [moved]
      exact (through call isOwn).ok (Host.recorded_ok answered).1
    have recorded := Host.recorded_of_ok caller answered'
    obtain ⟨deeds, ⟨calls, takes⟩, did, did'⟩ := b.did
    refine ⟨a, host, _, answered, recorded, ?_⟩
    refine ⟨b.presenter, b.bag, b.fixed, b.owns, b.sound, b.outliner, ⟨change, rfl, through⟩,
      { deeds with exchanges := deeds.exchanges ++ [⟨call, .ok a⟩] }, ⟨fun x mem => ?_, takes⟩,
      did.call answered, did'.call recorded⟩
    rcases List.mem_append.mp mem with mem | mem
    · exact calls x mem
    · rw [List.mem_singleton.mp mem]
      exact isOwn
  note event b :=
    have ⟨deeds, ⟨calls, takes⟩, did, did'⟩ := b.did
    ⟨b.presenter, b.bag, b.fixed, b.owns, b.sound, b.outliner, b.host,
      { deeds with events := deeds.events ++ [event] }, ⟨calls, takes⟩, did.note event,
      did'.note event⟩
  write change b fixed owns :=
    have ⟨deeds, isOf, did, did'⟩ := b.did
    ⟨rfl, congrArg change b.bag, fixed, owns, b.sound, b.outliner, b.host, deeds, isOf,
      ⟨did.host, did.log, did.outliner, did.trace⟩,
      ⟨did'.host, did'.log, did'.outliner, did'.trace⟩⟩
  hosted b kind := by
    have same := b.outliner
    rw [kind] at same
    exact same.hosted
  parse {d e service} snapshot b kind := by
    have same := b.outliner
    have sound := b.sound
    rw [kind] at same sound
    obtain ⟨service', kind', grammar⟩ := same.background
    obtain ⟨outline, parsed⟩ := Grammar.Sound.outline sound snapshot
    have used := b.use (u := .parse) nofun
    rw [kind, kind'] at used
    exact ⟨service', outline, kind', parsed, grammar ▸ parsed, used⟩
  queue b := b.outliner.queue
  take {d e completion outliner} b taken := by
    have used := b.use (u := .take p.listener) fun id same => by
      cases same
      rfl
    rw [← Outliner.eq_use_of_take taken] at used
    exact ⟨_, b.outliner.take taken, used⟩

/-- Whether an action comes to the same on desks that are related, whatever the relation. -/
def Common {α : Type} (H : Host η) (maker : ClientId → FactoryId)
    (act : Action (Desk (Recorded η)) α) : Prop :=
  ∀ {p : Presenter} {R}, Paired (H.recorded none) (p.Owns maker) p R → ∀ {d e}, R d e →
    Both act act d e fun _ d' e' => R d' e'

theorem common_attach (H : Host η) (maker : ClientId → FactoryId) :
    Common H maker (attach (H.recorded none)) := fun paired _ _ r => paired.both_attach r

theorem common_detach (H : Host η) (maker : ClientId → FactoryId) :
    Common H maker (Desk.detach (H.recorded none)) := fun paired _ _ r =>
  (paired.both_detach r).imp fun _ _ _ r => r.1

theorem common_drain (H : Host η) (maker : ClientId → FactoryId) :
    Common H maker (drain (H.recorded none)) := fun paired _ _ r => paired.both_drain r

end Desk

end OutlineBar
