/-
Reading TOML documents.

A document is read line by line: blank lines, headers and assignments.  Values
nest at most `maxDepth` deep, and that depth is what the recursion runs on.
`Value.ofText?` reads a whole document and answers its table, or nothing when
there is any mistake in it.
-/
import OutlineBar.Toml.Moment
import OutlineBar.Toml.Tree

namespace OutlineBar.Toml

/-- How deep values may nest, and how many parts a key may have. -/
def maxDepth : Nat := 80

/-! ## Keys -/

/-- Characters of keys that need no quotes. -/
def isBareKey (c : Char) : Bool :=
  isDigit c || ('a' ≤ c && c ≤ 'z') || ('A' ≤ c && c ≤ 'Z') || c == '_' || c == '-'

def keyPart : Reader String
  | [] => none
  | c :: rest =>
    if isBareKey c then
      some (String.ofList (c :: rest.takeWhile isBareKey), rest.dropWhile isBareKey)
    else (quotedLine (c :: rest)).map fun (body, rest) => (String.ofList body, rest)

/-- The parts of a dotted key, at most `bound` of them, with blanks around the dots. -/
def keyParts : (bound : Nat) → Reader (List String)
  | 0, _ => none
  | bound + 1, text =>
    match keyPart (skipBlanks text) with
    | none => none
    | some (part, rest) =>
      match skipBlanks rest with
      | '.' :: rest => (keyParts bound rest).map fun (parts, rest) => (part :: parts, rest)
      | rest => some ([part], rest)

/-- A dotted key: the path to a table, and the last part.  Blanks after it are
skipped. -/
def dottedKey (text : List Char) : Option (List String × String × List Char) :=
  match keyParts maxDepth text with
  | some (parts, rest) => parts.getLast?.map fun key => (parts.dropLast, key, rest)
  | none => none

/-! ## Values -/

/-- Characters that end a word of a value without quotes. -/
def endsWord (c : Char) : Bool :=
  isBlank c || c == '\n' || c == '\r' || c == ',' || c == ']' || c == '[' || c == '\x7b' ||
    c == '\x7d' || c == '#' || c == '='

/-- Whether a text starts with a word that a value without quotes goes on with after
blanks.  Quotes and dots may stand inside a word but not start one. -/
def goesOn : List Char → Bool
  | [] => false
  | c :: _ => !(endsWord c || c == '.' || c == '\x22' || c == '\x27')

/-- The words at the front of a text and the blanks between them. -/
def scalarText : List Char → List Char
  | [] => []
  | c :: rest =>
    if !endsWord c || (isBlank c && goesOn (skipBlanks rest)) then c :: scalarText rest else []

/-- The number or date-time that a text writes.  Digits before a hyphen or a colon
start a date-time, a dot or an exponent's letter makes a float, and an underscore
goes on with an integer. -/
def number? (text : List Char) : Option Value :=
  let sign := Signed.ofText text
  match sign.body.dropWhile isDigit with
  | [] => decimal? sign
  | c :: rest =>
    if c == '-' || c == ':' then if isMoment text then some .moment else none
    else if rest.contains ' ' then none
    else if (c :: rest).any fun c => c == '.' || c == 'e' || c == 'E' then
      (fraction? sign).map .float
    else if c == '_' then decimal? sign
    else none

def scalar? (text : List Char) : Option Value :=
  if text = "true".toList then some (.boolean true)
  else if text = "false".toList then some (.boolean false)
  else
    match named? (Signed.ofText text), text with
    | some x, _ => some (.float x)
    | none, '0' :: 'x' :: digits => inRadix? 16 digits
    | none, '0' :: 'o' :: digits => inRadix? 8 digits
    | none, '0' :: 'b' :: digits => inRadix? 2 digits
    | none, text => number? text

def scalar (text : List Char) : Option (Value × List Char) :=
  let word := scalarText text
  (scalar? word).map fun v => (v, text.drop word.length)

def simpleValue : Reader Value
  | [] => none
  | c :: rest =>
    if c == '\x22' || c == '\x27' then
      (quoted (c :: rest)).map fun (body, rest) => (.string (String.ofList body), rest)
    else scalar (c :: rest)

/-- The items of an array after its opening bracket, at most `bound` of them.  Line
ends and comments may stand anywhere between, and a comma after the last item. -/
def items (item : Reader Value) : (bound : Nat) → Reader (List Value)
  | 0, _ => none
  | bound + 1, text =>
    match skipGap false text with
    | none => none
    | some (']' :: rest) => some ([], rest)
    | some text =>
      match item text with
      | none => none
      | some (v, rest) =>
        match skipGap false rest with
        | some (',' :: rest) => (items item bound rest).map fun (vs, rest) => (v :: vs, rest)
        | some (']' :: rest) => some ([v], rest)
        | _ => none

/-- An assignment: a dotted key, an equals sign and a value.  `gap` skips what may
stand on either side of the equals sign. -/
def assignment (gap : List Char → Option (List Char)) (value : Reader Value)
    (text : List Char) : Option ((List String × String × Value) × List Char) := do
  let (path, key, rest) ← dottedKey text
  let '=' :: rest ← gap rest | none
  let (v, rest) ← value (← gap rest)
  return ((path, key, v), rest)

/-- The fields of an inline table after its opening brace, at most `bound` of them,
added to those read before.  Line ends and comments may stand anywhere but inside a
key. -/
def inlineFields (value : Reader Value) : (bound : Nat) → Fields → Reader Fields
  | 0, _, _ => none
  | bound + 1, fields, text =>
    match skipGap false text with
    | none => none
    | some ('\x7d' :: rest) => some (fields, rest)
    | some text =>
      match assignment (skipGap false) value text with
      | none => none
      | some ((path, key, v), rest) =>
        match fields.assign path key v, skipGap false rest with
        | some fields, some (',' :: rest) => inlineFields value bound fields rest
        | some fields, some ('\x7d' :: rest) => some (fields, rest)
        | _, _ => none

/-- A value, with at most `depth` arrays and inline tables around any part of it. -/
def value : (depth : Nat) → Reader Value
  | 0, text => simpleValue text
  | depth + 1, text =>
    match text with
    | '[' :: rest =>
      (items (value depth) (rest.length + 1) rest).map fun (vs, rest) => (.array vs, rest)
    | '\x7b' :: rest =>
      (inlineFields (value depth) (rest.length + 1) [] rest).map fun (fields, rest) =>
        (.table (finishFields fields), rest)
    | _ => simpleValue text

/-! ## Documents -/

/-- What has been read of a document: its tables, and the path of the table that the
last header opened. -/
structure Reading where
  fields : Fields := []
  header : List String := []

/-- The document after a header of either kind, and the text after its line. -/
def Reading.readHeader (reading : Reading) (text : List Char) : Option (Reading × List Char) :=
  match text with
  | '[' :: '[' :: rest =>
    match dottedKey rest with
    | some (path, key, ']' :: ']' :: rest) => do
      let fields ← reading.fields.openElement path key
      let rest ← lineEnd rest
      return (⟨fields, path ++ [key]⟩, rest)
    | _ => none
  | '[' :: rest =>
    match dottedKey rest with
    | some (path, key, ']' :: rest) => do
      let fields ← reading.fields.openTable path key
      let rest ← lineEnd rest
      return (⟨fields, path ++ [key]⟩, rest)
    | _ => none
  | _ => none

/-- The document after one assignment, which stands on one line as far as its value
allows, and the text after its line. -/
def Reading.readAssignment (reading : Reading) (text : List Char) :
    Option (Reading × List Char) := do
  let ((path, key, v), rest) ← assignment (some ∘ skipBlanks) (value maxDepth) text
  let fields ← reading.fields.assignUnder reading.header path key v
  let rest ← lineEnd rest
  return ({ reading with fields }, rest)

/-- The document after all its lines, of which there are at most `bound`. -/
def Reading.readLines : (bound : Nat) → Reading → List Char → Option Reading
  | 0, _, _ => none
  | bound + 1, reading, text =>
    match skipGap false text with
    | none => none
    | some [] => some reading
    | some (c :: rest) =>
      let line :=
        if c == '[' then reading.readHeader (c :: rest) else reading.readAssignment (c :: rest)
      match line with
      | some (reading, rest) => readLines bound reading rest
      | none => none

def dropMark : List Char → List Char
  | [] => []
  | c :: rest => if c.toNat = 0xfeff then rest else c :: rest

def Value.ofText? (text : String) : Option (List (String × Value)) :=
  let text := dropMark text.toList
  (Reading.readLines (text.length + 1) {} text).map fun reading => finishFields reading.fields

end OutlineBar.Toml
