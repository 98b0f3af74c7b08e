/-
What a resolver makes of a buffer.

A resolver owns a content type that is its language up to the case of the letters from A to Z;
all other characters must be the same.  Nothing else about the spelling matters, so variants in
case of the language or of the content type come to the same.
-/
import Mathlib.Data.List.Forall2
import OutlineBar.Outliner.Resolver

namespace OutlineBar

/-- Whether two characters are the same, or the two cases of one letter from A to Z. -/
def SameLetter (c c' : Char) : Prop :=
  c = c' ∨ ('A' ≤ c ∧ c ≤ 'Z' ∧ c'.toNat = c.toNat + 32) ∨
    ('A' ≤ c' ∧ c' ≤ 'Z' ∧ c.toNat = c'.toNat + 32)

/-- Whether two texts are the same up to the case of the letters from A to Z. -/
def SameUpToCase (text text' : String) : Prop := List.Forall₂ SameLetter text.toList text'.toList

theorem toNat_toLower (c : Char) :
    c.toLower.toNat = if 65 ≤ c.toNat ∧ c.toNat ≤ 90 then c.toNat + 32 else c.toNat := by
  have bounds : (c.val ≥ 'A'.val ∧ c.val ≤ 'Z'.val) ↔ 65 ≤ c.toNat ∧ c.toNat ≤ 90 := by
    rw [ge_iff_le, UInt32.le_iff_toNat_le, UInt32.le_iff_toNat_le]
    rfl
  by_cases capital : 65 ≤ c.toNat ∧ c.toNat ≤ 90
  · show Char.toNat (dite _ _ _) = _
    rw [dif_pos (bounds.mpr capital), if_pos capital]
    have shift : ('a'.val - 'A'.val).toNat = 32 := rfl
    have small : c.val.toNat + 32 < 2 ^ 32 := by
      have := capital.2
      rw [← Char.toNat_val] at this
      omega
    show (c.val + ('a'.val - 'A'.val)).toNat = c.toNat + 32
    rw [UInt32.toNat_add, shift, Nat.mod_eq_of_lt small, Char.toNat_val]
  · show Char.toNat (dite _ _ _) = _
    rw [dif_neg fun h => capital (bounds.mp h), if_neg capital]

theorem sameLetter_iff {c c' : Char} : SameLetter c c' ↔ c.toLower = c'.toLower := by
  have first (d : Char) : 'A' ≤ d ↔ 65 ≤ d.toNat := by
    rw [Char.le_def, UInt32.le_iff_toNat_le]
    rfl
  have last (d : Char) : d ≤ 'Z' ↔ d.toNat ≤ 90 := by
    rw [Char.le_def, UInt32.le_iff_toNat_le]
    rfl
  unfold SameLetter
  rw [← Char.toNat_inj, ← Char.toNat_inj, toNat_toLower, toNat_toLower, first, first, last, last]
  split <;> split <;> omega

namespace Resolver

theorem foldCase_eq_iff {text text' : String} :
    foldCase text = foldCase text' ↔ SameUpToCase text text' := by
  unfold foldCase SameUpToCase
  rw [← List.forall₂_eq_eq_eq, List.forall₂_map_left_iff, List.forall₂_map_right_iff]
  simp only [← sameLetter_iff]

theorem owns_iff {r : Resolver} {contentType : String} :
    r.owns contentType = true ↔ SameUpToCase contentType r.language := by
  rw [owns, beq_iff_eq, foldCase_eq_iff]

/-- A new outliner gets the grammar of the resolver. -/
theorem grammar_of_create {α : Type} {r : Resolver} {contentType : String} {installed : Option α}
    {grammar : Grammar} (resolved : r.resolve contentType installed = .ok (.create grammar)) :
    r.grammar = some grammar := by
  unfold resolve at resolved
  split at resolved
  · split at resolved <;> cases resolved
  · split at resolved
    · rename_i has
      cases resolved
      exact has
    · cases resolved

end Resolver

def CreationError.about (contentType : String) : CreationError → CreationError
  | .noGrammar _ => .noGrammar contentType
  | .notStarted _ reason => .notStarted contentType reason

/-- The error of a buffer with another content type. -/
def ResolveError.about (contentType : String) : ResolveError → ResolveError
  | .missing _ => .missing contentType
  | .unavailable cause => .unavailable (cause.about contentType)

/-- Variants in case come to the same, except that an error shows the content type as it is
spelled. -/
theorem Resolver.resolve_variant {α : Type} {r r' : Resolver} {contentType contentType' : String}
    (language : SameUpToCase r.language r'.language) (grammar : r'.grammar = r.grammar)
    (spelled : SameUpToCase contentType contentType') (installed : Option α) :
    r'.resolve contentType' installed =
      (r.resolve contentType installed).mapError (·.about contentType') := by
  have owned : r'.owns contentType' = r.owns contentType := by
    unfold owns
    rw [foldCase_eq_iff.mpr language, foldCase_eq_iff.mpr spelled]
  unfold resolve
  rw [owned, grammar]
  cases r.owns contentType <;> cases installed <;> cases r.grammar <;> rfl

end OutlineBar
