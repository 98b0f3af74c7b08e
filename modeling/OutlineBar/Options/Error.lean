/-
What can be wrong with options.

A document may be no TOML, it may have the wrong shape, or a value in it may be
out of bounds.  Each cause is a constructor, and `message` gives its text.  The
reader of TOML keeps no positions, so a malformed document has no message, and a
number too large to be any number has none either.
-/
import OutlineBar.Decimal.Shortest
import OutlineBar.Options.WordRange
import OutlineBar.Text.Shown
import OutlineBar.Toml.Value

namespace OutlineBar

/-- What a place in the options takes. -/
inductive Expectation where
  | boolean
  | signed32
  | string
  | unsigned64
  | barSection
  | idleSection
  deriving DecidableEq, Repr

def Expectation.label : Expectation → String
  | .boolean => "a boolean"
  | .signed32 => "i32"
  | .string => "a string"
  | .unsigned64 => "usize"
  | .barSection => "struct NavigationSection"
  | .idleSection => "struct IdleSection"

/-- How messages call a value that a place does not take. -/
inductive Found where
  | boolean (value : Bool)
  | integer (value : Int)
  /-- An integer outside the signed and the unsigned 64-bit range. -/
  | wideInteger (value : Int)
  | float (negative : Bool) (value : Binary)
  | infinite (negative : Bool)
  | notANumber
  | string (value : String)
  | sequence
  | map
  deriving DecidableEq, Repr

def Found.label : Found → String
  | .boolean value => "boolean `" ++ toString value ++ "`"
  | .integer value => "integer `" ++ toString value ++ "`"
  | .wideInteger value =>
    "integer `" ++ toString value ++ "` as " ++
      (if WordRange.fitsSigned 128 value then "i128" else "u128")
  | .float negative value =>
    "floating point `" ++ (if negative then "-" else "") ++ value.shortest.positional ++ "`"
  | .infinite negative => "floating point `" ++ (if negative then "-inf" else "inf") ++ "`"
  | .notANumber => "floating point `NaN`"
  | .string value => "string " ++ Text.shown value
  | .sequence => "sequence"
  | .map => "map"

inductive ShapeError where
  | unknownField (name : String) (known : List String)
  | wrongType (found : Found) (expected : Expectation)
  | outOfRange (value : Int) (expected : Expectation)
  /-- A number outside every range of numbers. -/
  | notRepresentable
  deriving DecidableEq, Repr

def choiceLabel : List String → String
  | [] => "there are no fields"
  | [only] => "expected `" ++ only ++ "`"
  | [first, second] => "expected `" ++ first ++ "` or `" ++ second ++ "`"
  | names => "expected one of " ++ ", ".intercalate (names.map fun name => "`" ++ name ++ "`")

def ShapeError.message? : ShapeError → Option String
  | .unknownField name known => some ("unknown field `" ++ name ++ "`, " ++ choiceLabel known)
  | .wrongType found expected =>
    some ("invalid type: " ++ found.label ++ ", expected " ++ expected.label)
  | .outOfRange value expected =>
    some ("invalid value: integer `" ++ toString value ++ "`, expected " ++ expected.label)
  | .notRepresentable => none

/-- A value of the right shape that is not allowed. -/
inductive InvalidOption where
  | negativePriority (priority : Int)
  | blankLanguage
  deriving DecidableEq, Repr

def InvalidOption.message : InvalidOption → String
  | .negativePriority priority =>
    "invalid option: navigation.bar-priority must be non-negative, got " ++ toString priority
  | .blankLanguage => "invalid option: navigation.language must not be empty"

inductive OptionsError where
  | malformed
  | shape (error : ShapeError)
  | invalid (error : InvalidOption)
  deriving DecidableEq, Repr

end OutlineBar
