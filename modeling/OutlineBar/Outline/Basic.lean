/-
Outlines: the result of one parse, and the notice that it is finished.

An outline belongs to one version of a buffer.  A completion repeats the version
of its outline, so that a listener can tell a stale outline without looking into
it.
-/
import OutlineBar.Outline.Entry
import OutlineBar.Snapshot

namespace OutlineBar

/-- A mistake in the source text that did not stop the parse. -/
structure Diagnostic where
  message : String
  span : Span
  deriving DecidableEq, Repr, Inhabited

/-- The outline of one version of a buffer. -/
structure Outline where
  version : Nat
  root : Entry
  diagnostics : List Diagnostic := []
  deriving Repr, Inhabited, BEq

namespace Outline

/-- The outline of a text of `length` bytes without entries. -/
def empty (version length : Nat) : Outline := { version, root := .leaf .root "" ⟨0, length⟩ }

/-- The outline of a snapshot that has no entries, and whose root is named by the text. -/
def ofWholeText (snapshot : Snapshot) : Outline :=
  { version := snapshot.version
    root := .leaf .root snapshot.text ⟨0, snapshot.byteLength⟩ }

def stamped (outline : Outline) (version : Nat) : Outline := { outline with version }

end Outline

/-- The notice that a parse is finished. -/
structure Completion where
  version : Nat
  outline : Outline
  deriving Repr, Inhabited, BEq

/-- The notice for an outline carries the outline's own version. -/
def Completion.of (outline : Outline) : Completion := ⟨outline.version, outline⟩

end OutlineBar
