/-
Options from the tree of a document.

Keys of one table are looked at in ascending order, whatever their order in the
document, and the first problem is the answer.  A section may also be an array,
which gives its fields by position; missing ones keep their defaults and further
ones are ignored.  Bounds on values are checked only when the whole shape is
right: first the priority, then the language.
-/
import OutlineBar.Options.Basic
import OutlineBar.Options.Error

namespace OutlineBar

namespace Shape

open Toml (Value)
open WordRange

/-- The key under which a date-time appears when it is read as a table. -/
def momentKey : String := "$__toml_private_datetime"

/-- A field at its place in a list that ascends by key. -/
def insertField (field : String × Value) : List (String × Value) → List (String × Value)
  | [] => [field]
  | other :: rest =>
    if field.1 < other.1 then field :: other :: rest else other :: insertField field rest

/-- The fields of a table in ascending order of their keys. -/
def ascendingFields (fields : List (String × Value)) : List (String × Value) :=
  fields.foldr insertField []

/-- The error of a value that a place does not take, as far as the value itself can be
represented. -/
def mismatch (expected : Expectation) : Value → ShapeError
  | .boolean b => .wrongType (.boolean b) expected
  | .integer n =>
    if fitsWord 64 n then .wrongType (.integer n) expected
    else if fitsWord 128 n then .wrongType (.wideInteger n) expected
    else .notRepresentable
  | .unreadable => .notRepresentable
  | .float (.decimal negative digits exponent) =>
    match Binary.nearest? digits exponent with
    | some x => .wrongType (.float negative x) expected
    | none => .notRepresentable
  | .float (.infinite negative) => .wrongType (.infinite negative) expected
  | .float .notANumber => .wrongType .notANumber expected
  | .string s => .wrongType (.string s) expected
  | .moment => .wrongType .map expected
  | .array _ => .wrongType .sequence expected
  | .table _ => .wrongType .map expected

/-- A boolean. -/
def boolean : Value → Except ShapeError Bool
  | .boolean b => .ok b
  | v => .error (mismatch .boolean v)

def string : Value → Except ShapeError String
  | .string s => .ok s
  | v => .error (mismatch .string v)

def signed32 : Value → Except ShapeError Int
  | .integer n =>
    if fitsSigned 32 n then .ok n
    else if fitsWord 64 n then .error (.outOfRange n .signed32)
    else .error (mismatch .signed32 (.integer n))
  | v => .error (mismatch .signed32 v)

def unsigned64 : Value → Except ShapeError Nat
  | .integer n =>
    if fitsUnsigned 64 n then .ok n.toNat
    else if fitsWord 64 n then .error (.outOfRange n .unsigned64)
    else .error (mismatch .unsigned64 (.integer n))
  | v => .error (mismatch .unsigned64 v)

/-! ## Sections -/

/-- A section of options: what messages call it, and what each field, in order of
position, changes. -/
structure Section (α : Type) where
  expectation : Expectation
  fields : List (String × (Value → α → Except ShapeError α))

namespace Section

variable {α : Type}

def names (sec : Section α) : List String := sec.fields.map Prod.fst

def setNamed (sec : Section α) (options : α) (field : String × Value) : Except ShapeError α :=
  match sec.fields.find? fun known => known.1 == field.1 with
  | some (_, set) => set field.2 options
  | none => .error (.unknownField field.1 sec.names)

def setPositional :
    List (String × (Value → α → Except ShapeError α)) → List Value → α → Except ShapeError α
  | (_, set) :: fields, v :: values, options => do setPositional fields values (← set v options)
  | _, _, options => .ok options

/-- The section that a value gives, where `options` holds the defaults. -/
def decode (sec : Section α) (options : α) : Value → Except ShapeError α
  | .table fields => (ascendingFields fields).foldlM sec.setNamed options
  | .moment => sec.setNamed options (momentKey, .moment)
  | .array values => setPositional sec.fields values options
  | v => .error (mismatch sec.expectation v)

end Section

def barSection : Section BarOptions where
  expectation := .barSection
  fields := [
    ("enabled", fun v options => do return { options with enabled := ← boolean v }),
    ("bar-priority", fun v options => do return { options with priority := ← signed32 v }),
    ("language", fun v options => do return { options with language := ← string v })]

def idleSection : Section IdleOptions where
  expectation := .idleSection
  fields := [
    ("max-windows-per-tick", fun v options => do
      return { options with maxWindows := ← unsigned64 v })]

def sectionNames : List String := ["navigation", "idle"]

def setSection (options : Options) (field : String × Value) : Except ShapeError Options :=
  if field.1 == "navigation" then do
    return { options with bar := ← barSection.decode {} field.2 }
  else if field.1 == "idle" then do
    return { options with idle := ← idleSection.decode {} field.2 }
  else .error (.unknownField field.1 sectionNames)

def options (fields : List (String × Value)) : Except ShapeError Options :=
  (ascendingFields fields).foldlM setSection {}

end Shape

namespace Options

/-- Checks the bounds that shapes do not give. -/
def validate (options : Options) : Except InvalidOption Options :=
  if options.bar.priority < 0 then .error (.negativePriority options.bar.priority)
  else if Text.isAllWhiteSpace options.bar.language then .error .blankLanguage
  else .ok options

def ofTree (fields : List (String × Toml.Value)) : Except OptionsError Options :=
  match Shape.options fields with
  | .error error => .error (.shape error)
  | .ok options =>
    match options.validate with
    | .error error => .error (.invalid error)
    | .ok options => .ok options

end Options

end OutlineBar
