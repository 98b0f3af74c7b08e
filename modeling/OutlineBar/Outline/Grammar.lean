/-
Grammars: functions from snapshots to outlines.

A grammar may panic on any text, and the version it puts on an outline means
nothing: `Grammar.outline` replaces it by the snapshot's.  `functionLines` is a
small grammar that knows one construct, a line that opens a function.
-/
import OutlineBar.Action
import OutlineBar.Snapshot
import OutlineBar.Outline.Basic

namespace OutlineBar

/-- A grammar, a fixed function of the snapshot. -/
abbrev Grammar := Snapshot → Except Panic Outline

/-- The outline of a snapshot, under the snapshot's own version. -/
def Grammar.outline (grammar : Grammar) (snapshot : Snapshot) : Except Panic Outline :=
  match grammar snapshot with
  | .ok outline => .ok (outline.stamped snapshot.version)
  | .error panic => .error panic

namespace FunctionLines

/-- The lines of a text; the line feed that ends a line belongs to it. -/
def lines : List Char → List (List Char)
  | [] => []
  | c :: rest =>
    if c = '\n' then [c] :: lines rest
    else
      match lines rest with
      | [] => [[c]]
      | line :: more => (c :: line) :: more

def byteLength (text : List Char) : Nat := text.foldr (fun c n => c.utf8Size + n) 0

/-- Whether a character cannot be part of a function's name. -/
def endsName (c : Char) : Bool := c == ' ' || c == '\t' || c == '\r' || c == '\n' || c == '{'

/-- The word that opens a function. -/
def opening : List Char := "function ".toList

/-- The name of the function that a line opens, if it opens one. -/
def functionName? (line : List Char) : Option (List Char) :=
  if opening.isPrefixOf line then
    some ((line.drop opening.length).takeWhile fun c => !endsName c)
  else none

/-- The entries of the lines that open a function, where the first line starts
at byte `start`. -/
def entries : Nat → List (List Char) → List Entry
  | _, [] => []
  | start, line :: rest =>
    let stop := start + byteLength line
    match functionName? line with
    | some name => .leaf .function (String.ofList name) ⟨start, stop⟩ :: entries stop rest
    | none => entries stop rest

/-- The panic that a text starting with an exclamation mark asks for. -/
def panicOf (rest : List Char) : Panic :=
  if rest = "static".toList then .text "grammar exploded"
  else if rest = "any".toList then .payload
  else .text (String.ofList rest)

/-- The version that the grammar puts on every outline. -/
def ownVersion : Nat := 777

end FunctionLines

open FunctionLines in
/-- The grammar of lines that start with `function `.  Each such line is an entry
below the root, which spans the whole text.  A text that starts with `!` makes
the grammar panic. -/
def Grammar.functionLines : Grammar := fun snapshot =>
  match snapshot.text.toList with
  | '!' :: rest => .error (panicOf rest)
  | text =>
    .ok {
      version := ownVersion
      root := .node .root "" ⟨0, byteLength text⟩ (entries 0 (lines text)) }

end OutlineBar
