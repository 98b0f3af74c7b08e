/-
Statuses of host operations.

A host operation either succeeds or answers with a failure: the operation that
failed and a signed 32-bit status code.  The host's codes are passed on as they
are, so nothing here asks whether a code is negative.  `HostFailure.message` is
the text that logs and error values show, with the code as the eight hexadecimal
digits of its two's complement.
-/
namespace OutlineBar

inductive HostOperation where
  | primaryView
  | secondaryView
  | getBar
  | removeBar
  | addBar
  | attachFilter
  | idle
  deriving DecidableEq, Repr, Inhabited

def HostOperation.label : HostOperation → String
  | .primaryView => "primary_view"
  | .secondaryView => "secondary_view"
  | .getBar => "get_bar"
  | .removeBar => "remove_bar"
  | .addBar => "add_bar"
  | .attachFilter => "attach_filter"
  | .idle => "idle"

/-- A failed host operation and the code it failed with. -/
structure HostFailure where
  operation : HostOperation
  code : Int32
  deriving DecidableEq, Repr, Inhabited

/-- What a host operation without a result answers. -/
abbrev HostStatus := Except HostFailure Unit

namespace HostFailure

/-- The code of a failure of no particular kind, `0x80004005`. -/
def generalCode : Int32 := -2147467259

/-- The code for an element that does not exist, `0x80020009`. -/
def notFoundCode : Int32 := -2147352567

/-- The failure of no particular kind of an operation. -/
def general (operation : HostOperation) : HostFailure := ⟨operation, generalCode⟩

/-- The eight lower-case hexadecimal digits of a 32-bit word. -/
def hexWord (word : UInt32) : String :=
  let digits := Nat.toDigits 16 word.toNat
  String.ofList (List.replicate (8 - digits.length) '0' ++ digits)

def message (failure : HostFailure) : String :=
  "host operation " ++ failure.operation.label ++ " failed with status 0x" ++
    hexWord failure.code.toUInt32

end HostFailure

end OutlineBar
