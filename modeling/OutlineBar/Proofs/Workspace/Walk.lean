/-
Walks whose visitor changes rosters.

A walk visits the entries that a roster has when the walk begins.  A visitor may put, remove,
register and unregister windows at every call, in the walked roster and in others, and end the
walk at any call: `walk_visits_snapshot` says that the calls are the same whatever it does, and
that a roster comes out as it went in, changed by nothing but the visitor.

`Calls` says what it means that a visitor was called for one handle after the other, each time
in the workspace that the call before left.  What a roster goes through is a list of
`RosterChange`s.
-/
import OutlineBar.Proofs.Action.Keeps
import OutlineBar.Proofs.Roster
import OutlineBar.Workspace.Walk
import OutlineBar.Workspace.Window

namespace OutlineBar

open OutlineBar.Action

/-! ## Changes of a roster -/

inductive RosterChange where
  | put (id : WindowId) (h : Handle)
  | remove (id : WindowId)
  | drain
  deriving DecidableEq

def RosterChange.apply : RosterChange → Roster → Roster
  | put id h, r => (r.put id h).2
  | remove id, r => (r.remove id).2
  | drain, r => r.drain.2

namespace Roster

/-- A roster after changes, in order. -/
def changed (r : Roster) (changes : List RosterChange) : Roster :=
  changes.foldl (fun r change => change.apply r) r

theorem changed_append (r : Roster) (changes changes' : List RosterChange) :
    r.changed (changes ++ changes') = (r.changed changes).changed changes' :=
  List.foldl_append

/-- Whether changes of an empty roster lead to a roster. -/
def Reached (r : Roster) : Prop := ∃ changes, r = changed {} changes

theorem Keyed.changed {r : Roster} (keyed : r.Keyed) (changes : List RosterChange) :
    (r.changed changes).Keyed := by
  induction changes generalizing r with
  | nil => exact keyed
  | cons change rest ih =>
    refine ih ?_
    cases change with
    | put id h => exact keyed.put id h
    | remove id => exact keyed.remove id
    | drain => exact keyed_empty

theorem Reached.keyed {r : Roster} (reached : r.Reached) : r.Keyed := by
  obtain ⟨changes, rfl⟩ := reached
  exact keyed_empty.changed changes

end Roster

/-! ## Calls of a visitor -/

/-- A call of a visitor: what it had made before, the handle that it was called with, the state
that it found, and whether it ended the walk. -/
structure VisitorCall (σ β : Type) where
  made : β
  handle : Handle
  found : σ
  ended : Bool

section
variable {σ β : Type} {visit : β → Handle → Action σ (ForInStep β)}

/-- Whether calls of a visitor, one in the state that the other left, lead from one state to
another.  Nothing follows a call that ended the walk. -/
inductive Calls (visit : β → Handle → Action σ (ForInStep β)) :
    β → σ → List (VisitorCall σ β) → β → σ → Prop where
  | none (made : β) (s : σ) : Calls visit made s [] made s
  | last {made made' : β} {h : Handle} {s s' : σ}
      (ended : visit made h s = .ok (.done made') s') :
      Calls visit made s [⟨made, h, s, true⟩] made' s'
  | next {made made₁ made' : β} {h : Handle} {s s₁ s' : σ} {calls : List (VisitorCall σ β)}
      (went : visit made h s = .ok (.yield made₁) s₁) (rest : Calls visit made₁ s₁ calls made' s') :
      Calls visit made s (⟨made, h, s, false⟩ :: calls) made' s'

/-- A visitor that always returns is called for the handles in order, until it ends the walk. -/
theorem visitEach_calls (returns : ∀ made h s, ∃ step s', visit made h s = .ok step s')
    (handles : List Handle) (made : β) (s : σ) : ∃ calls made' s',
      Handle.visitEach visit made handles s = .ok (calls.length, made') s' ∧
      Calls visit made s calls made' s' ∧
      calls.map VisitorCall.handle <+: handles ∧
      ((∀ call ∈ calls, call.ended = false) → calls.map VisitorCall.handle = handles) := by
  induction handles generalizing made s with
  | nil => exact ⟨[], made, s, rfl, .none made s, List.nil_prefix, fun _ => rfl⟩
  | cons h rest ih =>
    obtain ⟨step, s₁, called⟩ := returns made h s
    unfold Handle.visitEach
    rw [bind_of_ok called]
    cases step with
    | done made' =>
      refine ⟨[⟨made, h, s, true⟩], made', s₁, rfl, .last called, ?_, fun open' => ?_⟩
      · exact List.prefix_append [h] rest
      · cases open' _ List.mem_cons_self
    | yield made₁ =>
      obtain ⟨calls, made', s', visited, followed, earlier, all⟩ := ih made₁ s₁
      refine ⟨⟨made, h, s, false⟩ :: calls, made', s', ?_, .next called followed, ?_, ?_⟩
      · dsimp only
        rw [bind_of_ok visited]
        rfl
      · exact List.cons_prefix_cons.mpr ⟨rfl, earlier⟩
      · intro open'
        rw [List.map_cons, all fun call mem => open' call (List.mem_cons_of_mem _ mem)]

/-- Only the last call can have ended the walk. -/
theorem Calls.open_of_mem_dropLast {made made' : β} {s s' : σ} {calls : List (VisitorCall σ β)}
    (h : Calls visit made s calls made' s') : ∀ call ∈ calls.dropLast, call.ended = false := by
  induction h with
  | none | last => exact fun _ mem => nomatch mem
  | @next _ _ _ _ _ _ _ calls _ _ ih =>
    intro call mem
    cases calls with
    | nil => cases mem
    | cons next rest =>
      rw [List.dropLast_cons_cons] at mem
      rcases List.mem_cons.mp mem with rfl | mem
      · rfl
      · exact ih call mem

theorem Calls.open_of_endless {made made' : β} {s s' : σ} {calls : List (VisitorCall σ β)}
    (h : Calls visit made s calls made' s')
    (endless : ∀ made h s made' s', visit made h s ≠ .ok (.done made') s') :
    ∀ call ∈ calls, call.ended = false := by
  induction h with
  | none => exact List.forall_mem_nil _
  | last ended => exact absurd ended (endless _ _ _ _ _)
  | next _ _ ih => exact List.forall_mem_cons.mpr ⟨rfl, ih⟩

end

/-! ## Visitors that register and unregister windows -/

variable {η β : Type}

/-- What a visitor does about windows. -/
inductive Deed (η : Type) where
  | put (roster : RosterId) (id : WindowId) (h : Handle)
  | remove (roster : RosterId) (id : WindowId)
  | register (h : Handle)
  | unregister (h : Handle)
  | drain (roster : RosterId)
  /-- Anything else that returns and leaves rosters and scopes alone. -/
  | aside (act : Action (Workspace η) Unit)
      (spares : ∀ w, ∃ w', act w = .ok () w' ∧ w'.rosters = w.rosters ∧ w'.scopes = w.scopes)

namespace Deed

open Workspace

def perform : Deed η → Action (Workspace η) Unit
  | put roster id h => do let _ ← onBackstage (Backstage.put roster id h)
  | remove roster id => do let _ ← onBackstage (Backstage.remove roster id)
  | register h => h.register
  | unregister h => h.unregister
  | drain roster => do let _ ← onBackstage (Backstage.drain roster)
  | aside act _ => act

/-- The roster that a deed changes, and how.  `rosterOf` tells the roster of a scope. -/
def change? (rosterOf : ScopeId → RosterId) : Deed η → Option (RosterId × RosterChange)
  | put roster id h => some (roster, .put id h)
  | remove roster id => some (roster, .remove id)
  | register h => some (rosterOf h.scope, .put h.window h)
  | unregister h => some (rosterOf h.scope, .remove h.window)
  | drain roster => some (roster, .drain)
  | aside .. => none

/-- What deeds change in one roster, in order. -/
def changesOf (rosterOf : ScopeId → RosterId) (roster : RosterId) (deeds : List (Deed η)) :
    List RosterChange :=
  (deeds.filterMap (change? rosterOf)).filterMap fun change =>
    if change.1 = roster then some change.2 else none

theorem perform_returns (deed : Deed η) (w : Workspace η) : ∃ w', deed.perform w = .ok () w' ∧
    w'.scopes = w.scopes ∧
    w'.rosters = match deed.change? fun scope => (w.scopes.get scope).roster with
      | some (changed, change) => w.rosters.modify changed change.apply
      | none => w.rosters := by
  cases deed with
  | put | remove | register | unregister | drain => exact ⟨_, rfl, rfl, rfl⟩
  | aside act spares =>
    obtain ⟨w', done, rosters, scopes⟩ := spares w
    exact ⟨w', done, scopes, rosters⟩

theorem get_after_change (rosters : Store .roster Roster) (changed roster : RosterId)
    (change : RosterChange) :
    (rosters.modify changed change.apply).get roster =
      (rosters.get roster).changed (if changed = roster then [change] else []) := by
  unfold Store.modify
  split
  · rename_i own
    rw [own, Store.get_set_self]
    rfl
  · rename_i other
    exact Store.get_set_of_ne _ _ (Ne.symm other)

/-- Deeds return, and change every roster as they say. -/
theorem performAll_returns (deeds : List (Deed η)) (w : Workspace η) : ∃ w',
    deeds.forM perform w = .ok () w' ∧ w'.scopes = w.scopes ∧
    ∀ roster, w'.rosters.get roster = (w.rosters.get roster).changed
      (changesOf (fun scope => (w.scopes.get scope).roster) roster deeds) := by
  induction deeds generalizing w with
  | nil => exact ⟨w, rfl, rfl, fun _ => rfl⟩
  | cons deed rest ih =>
    obtain ⟨w₁, done, scopes, rosters⟩ := deed.perform_returns w
    obtain ⟨w', others, scopes', rosters'⟩ := ih w₁
    refine ⟨w', (bind_of_ok done _).trans others, scopes'.trans scopes, fun roster => ?_⟩
    rw [rosters', rosters, scopes]
    unfold changesOf
    rw [List.filterMap_cons]
    cases deed.change? fun scope => (w.scopes.get scope).roster with
    | none => rfl
    | some change =>
      rw [get_after_change, ← Roster.changed_append]
      by_cases own : change.1 = roster <;> simp [own]

end Deed

/-- A visitor.  It knows what it made of the calls before, its handle and everything else, and
decides on deeds and on whether the walk goes on. -/
structure Visitor (η β : Type) where
  decide : β → Handle → Workspace η → List (Deed η) × ForInStep β

namespace Visitor

variable (visitor : Visitor η β)

def visit (made : β) (h : Handle) : Action (Workspace η) (ForInStep β) := do
  let decided := visitor.decide made h (← get)
  decided.1.forM Deed.perform
  return decided.2

/-- What a visitor did at its calls. -/
def deedsAt (calls : List (VisitorCall (Workspace η) β)) : List (Deed η) :=
  calls.flatMap fun call => (visitor.decide call.made call.handle call.found).1

variable {visitor}

theorem visit_returns (made : β) (h : Handle) (w : Workspace η) : ∃ w',
    visitor.visit made h w = .ok (visitor.decide made h w).2 w' ∧ w'.scopes = w.scopes ∧
    ∀ roster, w'.rosters.get roster = (w.rosters.get roster).changed
      (Deed.changesOf (fun scope => (w.scopes.get scope).roster) roster
        (visitor.decide made h w).1) := by
  obtain ⟨w', done, scopes, rosters⟩ := Deed.performAll_returns (visitor.decide made h w).1 w
  exact ⟨w', bind_of_ok done _, scopes, rosters⟩

/-- Between the calls nothing changes rosters. -/
theorem rosters_of_calls {made made' : β} {w w' : Workspace η}
    {calls : List (VisitorCall (Workspace η) β)}
    (h : Calls visitor.visit made w calls made' w') : w'.scopes = w.scopes ∧
    ∀ roster, w'.rosters.get roster = (w.rosters.get roster).changed
      (Deed.changesOf (fun scope => (w.scopes.get scope).roster) roster
        (visitor.deedsAt calls)) := by
  induction h with
  | none => exact ⟨rfl, fun _ => rfl⟩
  | @last made _ h w _ called =>
    obtain ⟨w₁, done, scopes, rosters⟩ := visitor.visit_returns made h w
    obtain ⟨-, rfl⟩ := EStateM.Result.ok.inj (done.symm.trans called)
    refine ⟨scopes, fun roster => ?_⟩
    rw [rosters]
    unfold deedsAt
    rw [List.flatMap_singleton]
  | @next made _ _ h w _ _ calls called _ ih =>
    obtain ⟨w₁, done, scopes, rosters⟩ := visitor.visit_returns made h w
    obtain ⟨-, rfl⟩ := EStateM.Result.ok.inj (done.symm.trans called)
    refine ⟨ih.1.trans scopes, fun roster => ?_⟩
    rw [ih.2, rosters, scopes, ← Roster.changed_append]
    unfold deedsAt Deed.changesOf
    rw [List.flatMap_cons, List.filterMap_append, List.filterMap_append]

end Visitor

/-! ## The walk -/

open Workspace in
/-- A walk calls its visitor for entries that were registered when it began, of different
identities and with the handles that they had then: for all of them, unless the visitor ends it.
What the visitor does about windows meanwhile makes no difference to that.  The walk answers how
often it called, and every roster comes out as the visitor changed it, in order.  Identities of a
roster are listed in ascending order, each that is registered once. -/
theorem walk_visits_snapshot (visitor : Visitor η β) (roster : RosterId) (start : β)
    (w : Workspace η) (reached : (w.rosters.get roster).Reached) :
    (∃ (calls : List (VisitorCall (Workspace η) β)) (visited : List (WindowId × Handle)) (made : β)
        (w' : Workspace η),
      walk roster start visitor.visit w = .ok (calls.length, made) w' ∧
      Calls visitor.visit start w calls made w' ∧
      calls.map VisitorCall.handle = visited.map Prod.snd ∧
      (visited.map Prod.fst).Nodup ∧
      (∀ id h, (id, h) ∈ visited → (w.rosters.get roster).get? id = some h) ∧
      (∀ call ∈ calls.dropLast, call.ended = false) ∧
      ((∀ call ∈ calls, call.ended = false) →
        ∀ id h, (w.rosters.get roster).get? id = some h → (id, h) ∈ visited) ∧
      ∀ other, w'.rosters.get other = (w.rosters.get other).changed
        (Deed.changesOf (fun scope => (w.scopes.get scope).roster) other
          (visitor.deedsAt calls))) ∧
    ∀ r : Roster, r.Reached →
      r.ids.Pairwise (fun id id' => id.number < id'.number) ∧
      (∀ id, id ∈ r.ids ↔ r.contains id = true) ∧ r.ids.length = r.size := by
  refine ⟨?_, fun r reached => ⟨r.ids_ascend, fun id => Roster.mem_ids, ?_⟩⟩
  · have returns (made h) (w : Workspace η) : ∃ step w', visitor.visit made h w = .ok step w' :=
      ⟨_, (visitor.visit_returns made h w).imp fun _ done => done.1⟩
    obtain ⟨calls, made, w', walked, called, earlier, all⟩ :=
      visitEach_calls returns (w.rosters.get roster).handles start w
    obtain ⟨entries, rest, split, heard⟩ :
        ∃ entries rest, (w.rosters.get roster).entries = entries ++ rest ∧
          entries.map Prod.snd = calls.map VisitorCall.handle := by
      obtain ⟨rest, split⟩ := earlier
      obtain ⟨entries, others, e, first, -⟩ := List.map_eq_append_iff.mp split.symm
      exact ⟨entries, others, e, first⟩
    have keyed := reached.keyed
    refine ⟨calls, entries, made, w', walked, called, heard.symm, ?_, ?_,
      called.open_of_mem_dropLast, fun open' id h found => ?_,
      (Visitor.rosters_of_calls called).2⟩
    · have nodup : ((w.rosters.get roster).entries.map Prod.fst).Nodup := keyed
      rw [split, List.map_append] at nodup
      exact nodup.of_append_left
    · intro id h mem
      exact keyed.mem_entries.mp (split ▸ List.mem_append_left rest mem)
    · -- All handles were called, so no entry is left over.
      have none : rest = [] := by
        have lengths := congrArg List.length (all open')
        rw [← heard, Roster.handles, split, List.map_append, List.length_append] at lengths
        simpa using lengths
      have mem := keyed.mem_entries.mpr found
      rwa [split, none, List.append_nil] at mem
  · exact reached.keyed.length_ids

/-- Three windows, registered under ascending identities. -/
def threeWindows : Workspace Unit where
  host := ()
  rosters := Store.empty.set ⟨0⟩ <| Roster.changed {}
    [.put ⟨1⟩ ⟨⟨1⟩, ⟨0⟩, ⟨0⟩⟩, .put ⟨2⟩ ⟨⟨2⟩, ⟨0⟩, ⟨1⟩⟩, .put ⟨3⟩ ⟨⟨3⟩, ⟨0⟩, ⟨2⟩⟩]

/-- A visitor that registers a fourth window and takes the third one out, whichever window it
visits. -/
def replacingThird : Visitor Unit Unit where
  decide _ _ _ := ([.register ⟨⟨4⟩, ⟨0⟩, ⟨3⟩⟩, .remove ⟨0⟩ ⟨3⟩], .yield ())

open Workspace in
/-- The third window is visited though it is not registered any more by then, and the fourth one
is registered and not visited. -/
theorem walk_visits_snapshot_of_three : ∃ (calls : List (VisitorCall (Workspace Unit) Unit))
    (w' : Workspace Unit), walk ⟨0⟩ () replacingThird.visit threeWindows = .ok (3, ()) w' ∧
      Calls replacingThird.visit () threeWindows calls () w' ∧ calls.length = 3 ∧
      (∃ call ∈ calls, call.handle.window = ⟨3⟩) ∧
      (w'.rosters.get ⟨0⟩).ids = [⟨1⟩, ⟨2⟩, ⟨4⟩] := by
  have reached : (threeWindows.rosters.get ⟨0⟩).Reached := ⟨_, rfl⟩
  obtain ⟨⟨calls, visited, made, w', walked, called, same, -, -, -, all, -⟩, -⟩ :=
    walk_visits_snapshot replacingThird ⟨0⟩ () threeWindows reached
  have third := all (called.open_of_endless fun _ _ _ _ _ => nofun) ⟨3⟩ ⟨⟨3⟩, ⟨0⟩, ⟨2⟩⟩ rfl
  obtain ⟨call, mem, window⟩ : ∃ call ∈ calls, call.handle = ⟨⟨3⟩, ⟨0⟩, ⟨2⟩⟩ := by
    have mem := List.mem_map_of_mem (f := Prod.snd) third
    rwa [← same, List.mem_map] at mem
  have ran : walk ⟨0⟩ () replacingThird.visit threeWindows = .ok (3, ()) _ := rfl
  obtain ⟨three, rfl⟩ := EStateM.Result.ok.inj (walked.symm.trans ran)
  exact ⟨calls, _, ran, called, congrArg Prod.fst three, ⟨call, mem, by rw [window]⟩, rfl⟩

end OutlineBar
