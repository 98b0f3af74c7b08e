/-
Outline entries: the tree that a bar shows.

An entry has a kind, a name, the byte span it covers and its sub-entries in
order.  `listing` writes an entry and everything below it in preorder, each line
with its depth; `size` counts the lines.  Equality of entries is decided by
`same`, one line and one list of children at a time.
-/
namespace OutlineBar

/-- What an outline entry stands for. -/
inductive EntryKind where
  | root
  | function
  | classDecl
  | method
  | property
  | other
  deriving DecidableEq, Repr, Inhabited

/-- A range of bytes of the source text. -/
structure Span where
  start : Nat
  stop : Nat
  deriving DecidableEq, Repr, Inhabited

/-- One entry of an outline, with its sub-entries in order. -/
inductive Entry where
  | node (kind : EntryKind) (name : String) (span : Span) (children : List Entry)
  deriving Repr, Inhabited

/-- One line of a preorder listing. -/
structure EntryLine where
  depth : Nat
  kind : EntryKind
  name : String
  span : Span
  deriving DecidableEq, Repr

namespace Entry

def kind : Entry → EntryKind
  | node kind _ _ _ => kind

def name : Entry → String
  | node _ name _ _ => name

def span : Entry → Span
  | node _ _ span _ => span

def children : Entry → List Entry
  | node _ _ _ children => children

def leaf (kind : EntryKind) (name : String) (span : Span) : Entry := node kind name span []

def withChild : Entry → Entry → Entry
  | node kind name span children, child => node kind name span (children ++ [child])

/-! ## Counting and listing -/

mutual
def size : Entry → Nat
  | node _ _ _ children => 1 + sizeAll children

/-- How many entries a list of siblings holds, with everything below them. -/
def sizeAll : List Entry → Nat
  | [] => 0
  | entry :: rest => entry.size + sizeAll rest
end

mutual
/-- The entry and everything below it in preorder, at the given depth. -/
def listing : Nat → Entry → List EntryLine
  | depth, node kind name span children =>
    ⟨depth, kind, name, span⟩ :: listingAll (depth + 1) children

def listingAll : Nat → List Entry → List EntryLine
  | _, [] => []
  | depth, entry :: rest => listing depth entry ++ listingAll depth rest
end

/-! ## Equality -/

mutual
/-- Whether two entries are the same tree. -/
def same : Entry → Entry → Bool
  | node kind name span children, node kind' name' span' children' =>
    kind == kind' && name == name' && span == span' && sameAll children children'

/-- Whether two lists of siblings hold the same trees in the same order. -/
def sameAll : List Entry → List Entry → Bool
  | [], [] => true
  | entry :: rest, entry' :: rest' => entry.same entry' && sameAll rest rest'
  | _, _ => false
end

instance : BEq Entry := ⟨same⟩

end Entry

end OutlineBar
