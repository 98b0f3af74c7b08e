/-
Numbers of TOML.

Digits may be parted by single underscores between two digits.  A decimal integer
has no leading zero; the other radixes have a lower-case mark and no sign.  A
float has a fraction, an exponent or both, each with at least one digit.

An integer is told from other values by its beginning: once an underscore follows
the first digits, what comes after it belongs to the integer, and only the
characters beside underscores are looked at when it is read.  Whether all of them
are digits decides whether the integer has a value, not whether it may stand in a
document.
-/
import OutlineBar.Toml.Value
import OutlineBar.Toml.Quoted

namespace OutlineBar.Toml

/-! ## Digits -/

def isDigit (c : Char) : Bool := '0' ≤ c && c ≤ '9'

/-- Whether a character is a digit of a radix of at most sixteen. -/
def isDigitOf (radix : Nat) (c : Char) : Bool :=
  ((hexDigit? c).map (decide <| · < radix)).getD false

/-- The value of digits that are known to be digits of the radix. -/
def digitsValue (radix : Nat) (digits : List Char) : Nat :=
  digits.foldl (fun n c => radix * n + (hexDigit? c).getD 0) 0

/-- Whether every underscore stands between two digits.  `afterDigit` says whether the
text itself comes after one. -/
def underscoresFit (digit : Char → Bool) : (afterDigit : Bool) → List Char → Bool
  | _, [] => true
  | _, ['_'] => false
  | afterDigit, '_' :: c :: rest => afterDigit && digit c && underscoresFit digit true rest
  | _, c :: rest => underscoresFit digit (digit c) rest

/-- A text without its sign. -/
structure Signed where
  negative : Bool
  body : List Char

def Signed.ofText : List Char → Signed
  | '-' :: body => ⟨true, body⟩
  | '+' :: body => ⟨false, body⟩
  | body => ⟨false, body⟩

def Signed.apply (sign : Signed) (n : Nat) : Int := if sign.negative then -(n : Int) else n

/-! ## Integers -/

/-- The integer that a text writes, when it has nothing but digits of the radix and at
least one of them. -/
def integerValue (sign : Signed) (radix : Nat) : Value :=
  let digits := sign.body.filter (· != '_')
  if !digits.isEmpty && digits.all (isDigitOf radix) then
    .integer (sign.apply (digitsValue radix digits))
  else .unreadable

/-- An integer of another radix than ten, from what follows its mark. -/
def inRadix? (radix : Nat) (digits : List Char) : Option Value :=
  if digits.all (fun c => c == '_' || isDigitOf radix c) &&
      underscoresFit (isDigitOf 16) false digits then
    some (integerValue ⟨false, digits⟩ radix)
  else none

/-- A decimal integer.  Several characters do not start with a zero. -/
def decimal? (sign : Signed) : Option Value :=
  match sign.body with
  | [] => none
  | ['0'] => some (.integer 0)
  | '0' :: _ => none
  | body =>
    if underscoresFit (isDigitOf 16) false body then some (integerValue sign 10) else none

/-! ## Floats -/

/-- The decimal digits at the front of a text, without underscores among them, and
the rest.  There is at least one digit. -/
def digitRun? (text : List Char) : Option (List Char × List Char) :=
  let inRun := fun c => c == '_' || isDigit c
  let digits := (text.takeWhile inRun).filter (· != '_')
  if digits.isEmpty then none else some (digits, text.dropWhile inRun)

/-- The fraction at the front of a text, if there is one, as its digits. -/
def places? : List Char → Option (List Char × List Char)
  | '.' :: text => digitRun? text
  | text => some ([], text)

/-- The exponent at the front of a text, zero if there is none.  Leading zeros are
allowed. -/
def exponent? : List Char → Option (Int × List Char)
  | c :: text =>
    if c == 'e' || c == 'E' then
      let sign := Signed.ofText text
      (digitRun? sign.body).map fun (digits, rest) => (sign.apply (digitsValue 10 digits), rest)
    else some (0, c :: text)
  | [] => some (0, [])

/-- A float with a fraction or an exponent.  Several digits before the fraction do
not start with a zero. -/
def fraction? (sign : Signed) : Option FloatText := do
  let (whole, text) ← digitRun? sign.body
  let (places, text) ← places? text
  let (exponent, text) ← exponent? text
  let leadingZero := sign.body.head? == some '0' && 1 < whole.length
  if text.isEmpty && !leadingZero && underscoresFit isDigit false sign.body then
    some (.decimal sign.negative (digitsValue 10 (whole ++ places)) (exponent - places.length))
  else none

/-- A float without digits. -/
def named? (sign : Signed) : Option FloatText :=
  if sign.body = "inf".toList then some (.infinite sign.negative)
  else if sign.body = "nan".toList then some .notANumber
  else none

end OutlineBar.Toml
