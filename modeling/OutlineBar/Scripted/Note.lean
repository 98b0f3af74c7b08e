/-
Notes on host calls.

A note is a nested list of words, numbers and truth values.  `compact` writes it
without blanks, with texts in double quotes; notes are put in order by that text.
-/
import OutlineBar.Outline.Basic

namespace OutlineBar

inductive Note where
  | word (text : String)
  | number (n : Int)
  | flag (yes : Bool)
  | list (items : List Note)
  deriving Repr, Inhabited

namespace Note

def hexByte (n : Nat) : List Char :=
  [Nat.digitChar (n / 16), Nat.digitChar (n % 16)]

def escaped (c : Char) : List Char :=
  if c = '\x22' then ['\\', '\x22']
  else if c = '\\' then ['\\', '\\']
  else if c = '\x08' then ['\\', 'b']
  else if c = '\x09' then ['\\', 't']
  else if c = '\x0a' then ['\\', 'n']
  else if c = '\x0c' then ['\\', 'f']
  else if c = '\x0d' then ['\\', 'r']
  else if c.toNat < 0x20 then ['\\', 'u', '0', '0'] ++ hexByte c.toNat
  else [c]

def quoted (text : String) : String :=
  "\x22" ++ String.ofList (text.toList.flatMap escaped) ++ "\x22"

mutual
def compact : Note → String
  | word text => quoted text
  | number n => toString n
  | flag yes => if yes then "true" else "false"
  | list items => "[" ++ compactAll items ++ "]"

def compactAll : List Note → String
  | [] => ""
  | [note] => note.compact
  | note :: rest => note.compact ++ "," ++ compactAll rest
end

/-- A note at its place among notes in the order of their texts. -/
def insertByText (note : Note) : List Note → List Note
  | [] => [note]
  | other :: rest =>
    if other.compact < note.compact then other :: insertByText note rest else note :: other :: rest

def sorted (notes : List Note) : List Note := notes.foldr insertByText []

/-- What a note says about an outline: its version, the name and the end of its root, and
the names of the entries right below. -/
def ofOutline (outline : Outline) : Note :=
  .list [.number outline.version, .word outline.root.name, .number outline.root.span.stop,
    .list (outline.root.children.map fun entry => .word entry.name)]

end Note

end OutlineBar
