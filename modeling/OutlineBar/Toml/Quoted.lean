/-
Quoted strings of TOML.

Basic strings stand in double quotes and know escapes; literal strings stand in
single quotes and know none.  Either kind may be tripled to run over several
lines: then a line end right after the opening quotes is dropped, one or two
quotes may stand inside or right before the closing ones, and in the basic kind a
backslash at the end of a line swallows all blanks and line ends after it.
-/
import OutlineBar.Toml.Blank

namespace OutlineBar.Toml

/-- Characters that stand for themselves in a basic string. -/
def isBasic (c : Char) : Bool := isPlain c && c != '\x22' && c != '\\'

/-- The character that a one-letter escape stands for. -/
def shortEscape? : Char → Option Char
  | 'b' => some '\x08'
  | 't' => some '\t'
  | 'n' => some '\n'
  | 'f' => some '\x0c'
  | 'r' => some '\r'
  | 'e' => some '\x1b'
  | '\x22' => some '\x22'
  | '\\' => some '\\'
  | _ => none

def hexDigit? (c : Char) : Option Nat :=
  if '0' ≤ c ∧ c ≤ '9' then some (c.toNat - '0'.toNat)
  else if 'a' ≤ c ∧ c ≤ 'f' then some (c.toNat - 'a'.toNat + 10)
  else if 'A' ≤ c ∧ c ≤ 'F' then some (c.toNat - 'A'.toNat + 10)
  else none

/-- The character whose code the hexadecimal digits give.  A code that is no
character, such as half of a surrogate pair, is a mistake. -/
def hexChar? (digits : List Char) : Option Char := do
  let code ← digits.foldlM (fun n c => (hexDigit? c).map (16 * n + ·)) 0
  if code.isValidChar then some (Char.ofNat code) else none

def prepend (c : Option Char) (tail : Option (List Char × List Char)) :
    Option (List Char × List Char) :=
  match c, tail with
  | some c, some (body, rest) => some (c :: body, rest)
  | _, _ => none

/-- The body of a basic string, after its opening quote. -/
def basicBody : Reader (List Char)
  | '\x22' :: rest => some ([], rest)
  | '\\' :: 'x' :: a :: b :: rest => prepend (hexChar? [a, b]) (basicBody rest)
  | '\\' :: 'u' :: a :: b :: c :: d :: rest => prepend (hexChar? [a, b, c, d]) (basicBody rest)
  | '\\' :: 'U' :: a :: b :: c :: d :: e :: f :: g :: h :: rest =>
    prepend (hexChar? [a, b, c, d, e, f, g, h]) (basicBody rest)
  | '\\' :: c :: rest => prepend (shortEscape? c) (basicBody rest)
  | c :: rest => if isBasic c then prepend (some c) (basicBody rest) else none
  | [] => none

/-- The body of a literal string, after its opening quote. -/
def literalBody : Reader (List Char)
  | '\x27' :: rest => some ([], rest)
  | c :: rest => if isPlain c then prepend (some c) (literalBody rest) else none
  | [] => none

/-- Whether only blanks are left of the line. -/
def endsLine : List Char → Bool
  | '\n' :: _ => true
  | '\r' :: '\n' :: _ => true
  | c :: rest => isBlank c && endsLine rest
  | [] => false

/-- The body of a basic string of several lines.  `swallowing` says whether a
backslash at a line's end is still dropping blanks and line ends. -/
def basicLines : (swallowing : Bool) → Reader (List Char)
  | _, '\x22' :: '\x22' :: '\x22' :: '\x22' :: '\x22' :: rest => some (['\x22', '\x22'], rest)
  | _, '\x22' :: '\x22' :: '\x22' :: '\x22' :: rest => some (['\x22'], rest)
  | _, '\x22' :: '\x22' :: '\x22' :: rest => some ([], rest)
  | _, '\x22' :: rest => prepend (some '\x22') (basicLines false rest)
  | true, '\n' :: rest => basicLines true rest
  | true, '\r' :: '\n' :: rest => basicLines true rest
  | false, '\n' :: rest => prepend (some '\n') (basicLines false rest)
  | false, '\r' :: '\n' :: rest =>
    prepend (some '\r') (prepend (some '\n') (basicLines false rest))
  | _, '\\' :: 'x' :: a :: b :: rest => prepend (hexChar? [a, b]) (basicLines false rest)
  | _, '\\' :: 'u' :: a :: b :: c :: d :: rest =>
    prepend (hexChar? [a, b, c, d]) (basicLines false rest)
  | _, '\\' :: 'U' :: a :: b :: c :: d :: e :: f :: g :: h :: rest =>
    prepend (hexChar? [a, b, c, d, e, f, g, h]) (basicLines false rest)
  | _, '\\' :: c :: rest =>
    if endsLine (c :: rest) then
      match c, rest with
      | '\r', _ :: rest => basicLines true rest
      | _, rest => basicLines true rest
    else prepend (shortEscape? c) (basicLines false rest)
  | swallowing, c :: rest =>
    if swallowing && isBlank c then basicLines true rest
    else if isBasic c then prepend (some c) (basicLines false rest)
    else none
  | _, [] => none

def literalLines : Reader (List Char)
  | '\x27' :: '\x27' :: '\x27' :: '\x27' :: '\x27' :: rest => some (['\x27', '\x27'], rest)
  | '\x27' :: '\x27' :: '\x27' :: '\x27' :: rest => some (['\x27'], rest)
  | '\x27' :: '\x27' :: '\x27' :: rest => some ([], rest)
  | '\n' :: rest => prepend (some '\n') (literalLines rest)
  | '\r' :: '\n' :: rest => prepend (some '\r') (prepend (some '\n') (literalLines rest))
  | c :: rest => if isPlain c then prepend (some c) (literalLines rest) else none
  | [] => none

def dropLineEnd : List Char → List Char
  | '\n' :: rest => rest
  | '\r' :: '\n' :: rest => rest
  | text => text

/-- A string that opens at the front of the text, of any of the four kinds. -/
def quoted : Reader (List Char)
  | '\x22' :: '\x22' :: '\x22' :: rest => basicLines false (dropLineEnd rest)
  | '\x22' :: rest => basicBody rest
  | '\x27' :: '\x27' :: '\x27' :: rest => literalLines (dropLineEnd rest)
  | '\x27' :: rest => literalBody rest
  | _ => none

/-- A string of one line that opens at the front of the text; only these can be
keys. -/
def quotedLine : Reader (List Char)
  | '\x22' :: rest => basicBody rest
  | '\x27' :: rest => literalBody rest
  | _ => none

end OutlineBar.Toml
