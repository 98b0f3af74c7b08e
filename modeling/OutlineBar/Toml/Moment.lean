/-
Date-times of TOML.

A date, a time of day, or both with an optional offset.  Seconds may be left out
of a time.  Only whether a text is a date-time matters here, so these are tests
and not readers.
-/
import OutlineBar.Toml.Number

namespace OutlineBar.Toml

/-- The number that exactly `count` leading decimal digits write, and the rest. -/
def fixedDigits (count : Nat) (text : List Char) : Option (Nat × List Char) :=
  let digits := text.take count
  if digits.length = count ∧ digits.all isDigit then
    some (digitsValue 10 digits, text.drop count)
  else none

/-- Whether a year has 366 days. -/
def isLeapYear (year : Nat) : Bool := year % 4 == 0 && (year % 100 != 0 || year % 400 == 0)

/-- The number of days of a month; a month outside the year has none. -/
def daysIn (year month : Nat) : Nat :=
  if month = 2 then (if isLeapYear year then 29 else 28)
  else if month ∈ [4, 6, 9, 11] then 30
  else if 1 ≤ month ∧ month ≤ 12 then 31
  else 0

def afterDate (text : List Char) : Option (List Char) := do
  let (year, text) ← fixedDigits 4 text
  let '-' :: text := text | none
  let (month, text) ← fixedDigits 2 text
  let '-' :: text := text | none
  let (day, text) ← fixedDigits 2 text
  if 1 ≤ day ∧ day ≤ daysIn year month then some text else none

/-- What follows the seconds of a time, if it has any: two digits up to sixty,
for leap seconds, and a fraction of at least one digit. -/
def afterSeconds : List Char → Option (List Char)
  | ':' :: text => do
    let (second, text) ← fixedDigits 2 text
    if second ≤ 60 then
      match text with
      | '.' :: c :: rest => if isDigit c then some (rest.dropWhile isDigit) else none
      | _ => some text
    else none
  | text => some text

def afterTime (text : List Char) : Option (List Char) := do
  let (hour, text) ← fixedDigits 2 text
  let ':' :: text := text | none
  let (minute, text) ← fixedDigits 2 text
  if hour ≤ 23 ∧ minute ≤ 59 then afterSeconds text else none

/-- Whether a text is an offset from universal time: the letter Z, or a sign and
the hours and minutes of a day. -/
def isOffset : List Char → Bool
  | ['Z'] => true
  | ['z'] => true
  | c :: text =>
    if c == '+' || c == '-' then
      match fixedDigits 2 text with
      | some (hours, ':' :: text) =>
        match fixedDigits 2 text with
        | some (minutes, []) => hours ≤ 23 ∧ minutes ≤ 59
        | _ => false
      | _ => false
    else false
  | [] => false

def isMoment (text : List Char) : Bool :=
  match afterDate text with
  | some [] => true
  | some (c :: time) =>
    if c == 'T' || c == 't' || c == ' ' then
      match afterTime time with
      | some [] => true
      | some offset => isOffset offset
      | none => false
    else false
  | none => afterTime text == some []

end OutlineBar.Toml
