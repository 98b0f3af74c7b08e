/-
Rosters with one entry for each identity.

A roster that was built by registering and removing has no two entries for one identity, so
what is listed and what is found under an identity are the same.  Its identities are listed in
ascending order, each of them once.
-/
import OutlineBar.Roster
import Mathlib.Data.List.Nodup

namespace OutlineBar

/-! ## Ascending numbers -/

theorem mem_insertAscending {n m : Nat} {numbers : List Nat} :
    m ∈ insertAscending n numbers ↔ m = n ∨ m ∈ numbers := by
  induction numbers with
  | nil => simp [insertAscending]
  | cons k rest ih => grind [insertAscending]

theorem pairwise_insertAscending (n : Nat) {numbers : List Nat} (h : numbers.Pairwise (· < ·)) :
    (insertAscending n numbers).Pairwise (· < ·) := by
  induction numbers with
  | nil => exact List.pairwise_singleton _ _
  | cons k rest ih =>
    obtain ⟨first, others⟩ := List.pairwise_cons.mp h
    unfold insertAscending
    split
    · rename_i less
      refine List.pairwise_cons.mpr ⟨fun m mem => ?_, h⟩
      rcases List.mem_cons.mp mem with rfl | mem
      · exact less
      · exact Nat.lt_trans less (first m mem)
    · split
      · exact h
      · refine List.pairwise_cons.mpr ⟨fun m mem => ?_, ih others⟩
        rcases mem_insertAscending.mp mem with rfl | mem
        · omega
        · exact first m mem

theorem length_insertAscending {n : Nat} {numbers : List Nat} (new : n ∉ numbers) :
    (insertAscending n numbers).length = numbers.length + 1 := by
  induction numbers with
  | nil => rfl
  | cons k rest ih => grind [insertAscending]

theorem pairwise_ascending (numbers : List Nat) : (ascending numbers).Pairwise (· < ·) := by
  induction numbers with
  | nil => exact .nil
  | cons n rest ih => exact pairwise_insertAscending n ih

theorem mem_ascending {m : Nat} {numbers : List Nat} : m ∈ ascending numbers ↔ m ∈ numbers := by
  induction numbers with
  | nil => rfl
  | cons n rest ih =>
    rw [List.mem_cons, ← ih]
    exact mem_insertAscending

theorem length_ascending {numbers : List Nat} (nodup : numbers.Nodup) :
    (ascending numbers).length = numbers.length := by
  induction numbers with
  | nil => rfl
  | cons n rest ih =>
    obtain ⟨new, nodup⟩ := List.nodup_cons.mp nodup
    have e := length_insertAscending fun mem => new (mem_ascending.mp mem)
    rw [List.length_cons, ← ih nodup]
    exact e

namespace Roster

/-- Whether a roster has no two entries for one identity. -/
def Keyed (r : Roster) : Prop := (r.entries.map Prod.fst).Nodup

theorem keyed_empty : ({} : Roster).Keyed := List.nodup_nil

theorem mem_keys_write {id id' : WindowId} {h : Handle} {entries : List (WindowId × Handle)}
    (mem : id' ∈ (write id h entries).map Prod.fst) :
    id' = id ∨ id' ∈ entries.map Prod.fst := by
  induction entries with
  | nil => simpa [write] using mem
  | cons entry rest ih => grind [write]

namespace Keyed

variable {r : Roster} {id : WindowId} {h : Handle}

theorem put (keyed : r.Keyed) (id : WindowId) (h : Handle) : (r.put id h).2.Keyed := by
  obtain ⟨entries⟩ := r
  unfold Keyed Roster.put at *
  dsimp only at *
  induction entries with
  | nil => simp [write]
  | cons entry rest ih =>
    rw [List.map_cons, List.nodup_cons] at keyed
    obtain ⟨new, keyed⟩ := keyed
    unfold write
    split
    · rename_i same
      rw [List.map_cons, List.nodup_cons]
      exact ⟨same ▸ new, keyed⟩
    · rename_i other
      rw [List.map_cons, List.nodup_cons]
      refine ⟨fun mem => ?_, ih keyed⟩
      exact (mem_keys_write mem).elim other new

theorem remove (keyed : r.Keyed) (id : WindowId) : (r.remove id).2.Keyed :=
  List.Nodup.sublist (List.Sublist.map _ List.filter_sublist) keyed

theorem mem_entries (keyed : r.Keyed) : (id, h) ∈ r.entries ↔ r.get? id = some h := by
  obtain ⟨entries⟩ := r
  unfold Keyed at keyed
  unfold get?
  dsimp only at *
  induction entries with
  | nil => simp
  | cons entry rest ih =>
    rw [List.map_cons, List.nodup_cons] at keyed
    obtain ⟨new, keyed⟩ := keyed
    by_cases same : entry.1 = id
    · have absent : (id, h) ∉ rest := fun mem => new (same ▸ List.mem_map_of_mem mem)
      rw [List.mem_cons, List.find?_cons_of_pos (by simpa using same)]
      simp only [absent, or_false, Option.map_some, Option.some.injEq]
      constructor
      · rintro rfl
        rfl
      · rintro rfl
        rw [← same]
    · have other : (id, h) ≠ entry := fun e => same (by rw [← e])
      rw [List.mem_cons, List.find?_cons_of_neg (by simpa using same)]
      simp only [other, false_or]
      exact ih keyed

theorem mem_handles (keyed : r.Keyed) : h ∈ r.handles ↔ ∃ id, r.get? id = some h := by
  unfold handles
  rw [List.mem_map]
  constructor
  · rintro ⟨⟨id, h⟩, mem, rfl⟩
    exact ⟨id, keyed.mem_entries.mp mem⟩
  · rintro ⟨id, found⟩
    exact ⟨(id, h), keyed.mem_entries.mpr found, rfl⟩

end Keyed

/-! ## Identities -/

theorem ids_ascend (r : Roster) : r.ids.Pairwise fun id id' => id.number < id'.number :=
  List.pairwise_map.mpr (pairwise_ascending _)

theorem mem_ids {r : Roster} {id : WindowId} : id ∈ r.ids ↔ r.contains id = true := by
  obtain ⟨entries⟩ := r
  unfold ids contains get?
  rw [Option.isSome_map, List.find?_isSome, List.mem_map]
  constructor
  · rintro ⟨number, mem, rfl⟩
    obtain ⟨entry, listed, rfl⟩ := List.mem_map.mp (mem_ascending.mp mem)
    exact ⟨entry, listed, decide_eq_true rfl⟩
  · rintro ⟨entry, mem, same⟩
    refine ⟨entry.1.number, mem_ascending.mpr (List.mem_map_of_mem mem), ?_⟩
    exact of_decide_eq_true same

theorem Keyed.length_ids {r : Roster} (keyed : r.Keyed) : r.ids.length = r.size := by
  have numbers : (r.entries.map fun entry => entry.1.number).Nodup := by
    have injective : Function.Injective WindowId.number := by
      rintro ⟨n⟩ ⟨m⟩ same
      exact congrArg WindowId.mk same
    have mapped := keyed.map injective
    rwa [List.map_map] at mapped
  unfold ids size
  rw [List.length_map, length_ascending numbers, List.length_map]

end Roster

end OutlineBar
