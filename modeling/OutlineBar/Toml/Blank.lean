/-
Blanks, comments and line ends of TOML.

A blank is a space or a tab.  A line ends with a line feed, alone or after a
carriage return; a carriage return by itself is an error everywhere.  A comment
runs to the end of its line and may hold tabs but no other control character.
-/
namespace OutlineBar.Toml

/-- A reader takes a value from the front of a text and leaves the rest, or
finds a mistake. -/
abbrev Reader (α : Type) := List Char → Option (α × List Char)

def isBlank (c : Char) : Bool := c == ' ' || c == '\t'

/-- Characters that may stand in a comment or a single-line literal string:
everything but the control characters, and tabs. -/
def isPlain (c : Char) : Bool := c == '\t' || (0x20 ≤ c.toNat && c.toNat != 0x7f)

def skipBlanks : List Char → List Char
  | [] => []
  | c :: rest => if isBlank c then skipBlanks rest else c :: rest

/-- What follows the next line end, if the text up to it is a comment's. -/
def skipComment : List Char → Option (List Char)
  | [] => some []
  | '\n' :: rest => some rest
  | '\r' :: '\n' :: rest => some rest
  | c :: rest => if isPlain c then skipComment rest else none

/-- What follows this line, when only blanks and a comment are left of it. -/
def lineEnd : List Char → Option (List Char)
  | [] => some []
  | '\n' :: rest => some rest
  | '\r' :: '\n' :: rest => some rest
  | '#' :: rest => skipComment rest
  | c :: rest => if isBlank c then lineEnd rest else none

/-- The text after any blanks, comments and line ends.  `inComment` says whether
the text starts inside a comment. -/
def skipGap : (inComment : Bool) → List Char → Option (List Char)
  | _, [] => some []
  | _, '\n' :: rest => skipGap false rest
  | _, '\r' :: '\n' :: rest => skipGap false rest
  | true, c :: rest => if isPlain c then skipGap true rest else none
  | false, '#' :: rest => skipGap true rest
  | false, c :: rest => if isBlank c then skipGap false rest else some (c :: rest)

end OutlineBar.Toml
