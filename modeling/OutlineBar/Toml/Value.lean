/-
TOML values.

A document is a table of values.  Numbers keep what was written: an integer of
any size, and a decimal fraction before it is rounded to a float.  Text in the form
of an integer may stand in a document without having a value.  Date-times are
checked when they are read and then only known to be there, because no option
takes one.
-/
namespace OutlineBar.Toml

/-- A float as it was written. -/
inductive FloatText where
  /-- The number `digits · 10 ^ exponent`, with a sign of its own because zero has one. -/
  | decimal (negative : Bool) (digits : Nat) (exponent : Int)
  | infinite (negative : Bool)
  | notANumber
  deriving DecidableEq, Repr, Inhabited

inductive Value where
  | boolean (value : Bool)
  | integer (value : Int)
  /-- Text in the form of an integer whose characters are not all digits.  Only a
  place that looks at it minds. -/
  | unreadable
  | float (value : FloatText)
  | string (value : String)
  | moment
  | array (items : List Value)
  | table (fields : List (String × Value))
  deriving Repr, Inhabited

end OutlineBar.Toml
