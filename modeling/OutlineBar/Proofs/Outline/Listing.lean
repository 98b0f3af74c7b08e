/-
What the preorder listing of an entry tells of the entry.

A listing has one line for each entry of the tree, and it loses nothing: two
trees with the same listing are the same tree.  No mark says where a list of
children ends.  It ends before the first line that is no deeper than the entry
above it, so the trees are read off a listing that may go on with any lines, as
long as the first of these is shallow enough.
-/
import OutlineBar.Outline.Entry

namespace OutlineBar
namespace Entry

/-! ## Size -/

mutual
theorem length_listing (depth : Nat) (entry : Entry) :
    (entry.listing depth).length = entry.size := by
  match entry with
  | node _ _ _ children =>
    rw [listing, List.length_cons, length_listingAll, size, Nat.add_comm]

theorem length_listingAll (depth : Nat) (entries : List Entry) :
    (listingAll depth entries).length = sizeAll entries := by
  match entries with
  | [] => rfl
  | entry :: rest =>
    rw [listingAll, List.length_append, length_listing, length_listingAll, sizeAll]
end

/-! ## Equality -/

mutual
theorem same_iff (entry entry' : Entry) : entry.same entry' = true ↔ entry = entry' := by
  match entry, entry' with
  | node .., node .. => simp [same, sameAll_iff, and_assoc]

theorem sameAll_iff (entries entries' : List Entry) :
    sameAll entries entries' = true ↔ entries = entries' := by
  match entries, entries' with
  | [], [] => simp [sameAll]
  | [], _ :: _ => simp [sameAll]
  | _ :: _, [] => simp [sameAll]
  | _ :: _, _ :: _ => simp [sameAll, same_iff, sameAll_iff]
end

instance : LawfulBEq Entry where
  eq_of_beq := (same_iff _ _).mp
  rfl := (same_iff _ _).mpr rfl

/-! ## Reading a listing -/

/-- The lines do not go on with anything at this depth or below it. -/
def EndsAbove (depth : Nat) (lines : List EntryLine) : Prop :=
  ∀ line ∈ lines.head?, line.depth < depth

theorem endsAbove_nil (depth : Nat) : EndsAbove depth [] := nofun

/-- Siblings, and what ends the list of them, end any list that is one deeper. -/
theorem EndsAbove.after_siblings {depth : Nat} {rest : List EntryLine}
    (h : EndsAbove depth rest) (siblings : List Entry) :
    EndsAbove (depth + 1) (listingAll depth siblings ++ rest) := by
  intro line first
  match siblings with
  | [] =>
    have shallow := h line first
    omega
  | node .. :: _ =>
    obtain rfl : EntryLine.mk .. = line := Option.some.inj first
    exact Nat.lt_succ_self depth

theorem EndsAbove.ne_listing {depth : Nat} {lines rest : List EntryLine} {entry : Entry}
    {siblings : List Entry} (h : EndsAbove depth lines) :
    lines ≠ listingAll depth (entry :: siblings) ++ rest := by
  rintro rfl
  obtain ⟨kind, name, span, children⟩ := entry
  exact Nat.lt_irrefl depth (h _ rfl)

/-- A list of siblings can be told from the lines that follow it. -/
theorem listingAll_append_inj (depth : Nat) (entries entries' : List Entry)
    {rest rest' : List EntryLine} (ends : EndsAbove depth rest) (ends' : EndsAbove depth rest')
    (h : listingAll depth entries ++ rest = listingAll depth entries' ++ rest') :
    entries = entries' ∧ rest = rest' := by
  match entries, entries' with
  | [], [] => exact ⟨rfl, h⟩
  | [], _ :: _ => exact absurd h ends.ne_listing
  | _ :: _, [] => exact absurd h.symm ends'.ne_listing
  | node kind name span children :: siblings, node kind' name' span' children' :: siblings' =>
    simp only [listingAll, listing, List.cons_append, List.append_assoc, List.cons.injEq,
      EntryLine.mk.injEq, true_and] at h
    obtain ⟨⟨rfl, rfl, rfl⟩, below⟩ := h
    -- The children are followed by their uncles, so they can be told apart before these are.
    obtain ⟨rfl, beside⟩ := listingAll_append_inj (depth + 1) children children'
      (ends.after_siblings siblings) (ends'.after_siblings siblings') below
    obtain ⟨rfl, rfl⟩ := listingAll_append_inj depth siblings siblings' ends ends' beside
    exact ⟨rfl, rfl⟩

theorem listing_injective (depth : Nat) : Function.Injective (listing depth) := by
  intro entry entry' h
  have alone : ∀ entry, listingAll depth [entry] = listing depth entry := by
    simp [listingAll]
  have inj := listingAll_append_inj depth [entry] [entry'] (endsAbove_nil depth)
    (endsAbove_nil depth) (by rw [alone, alone, h])
  exact List.head_eq_of_cons_eq inj.1

/-- The size of an entry is the length of its listing, and entries are equal
exactly when their listings are. -/
theorem listing_faithful :
    (∀ entry : Entry, entry.size = (entry.listing 0).length) ∧
      ∀ entry entry' : Entry, (entry == entry') = true ↔ entry.listing 0 = entry'.listing 0 := by
  refine ⟨fun entry => (length_listing 0 entry).symm, fun entry entry' => ?_⟩
  rw [beq_iff_eq]
  exact (listing_injective 0).eq_iff.symm

end Entry
end OutlineBar
