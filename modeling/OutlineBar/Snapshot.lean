/-
Snapshots of a buffer: its text at one version.

Edits address characters, not bytes, and make a new text; a snapshot itself never
changes.  Two snapshots are equal when their versions and their texts are.
-/
namespace OutlineBar

/-- The text of a buffer at one version. -/
structure Snapshot where
  version : Nat
  text : String
  deriving DecidableEq, Repr, Inhabited

/-- One change of a text; positions count characters. -/
inductive Edit where
  | insert (position : Nat) (piece : String)
  | remove (first last : Nat)
  deriving DecidableEq, Repr

/-- The text after one edit, on its characters. -/
def Edit.apply : Edit → List Char → List Char
  | .insert position piece, text => text.take position ++ piece.toList ++ text.drop position
  | .remove first last, text => text.take first ++ text.drop (max first last)

namespace Snapshot

/-- The snapshot after a list of edits, applied in order. -/
def edited (snapshot : Snapshot) (edits : List Edit) : Snapshot :=
  { snapshot with
    text := String.ofList (edits.foldl (fun text edit => edit.apply text) snapshot.text.toList) }

def byteLength (snapshot : Snapshot) : Nat := snapshot.text.utf8ByteSize

def isEmpty (snapshot : Snapshot) : Bool := snapshot.byteLength == 0

end Snapshot

end OutlineBar
