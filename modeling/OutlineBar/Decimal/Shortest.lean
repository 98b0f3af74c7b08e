/-
The shortest decimal that reads back as a given double.

The reals that round to a double form an interval around it, whose ends belong to
it when the significand is even.  For one digit, two digits and so on up to
seventeen, `shortest` tries the two numbers with that many digits next to the
double, and takes the first that lies in the interval; of two that do it takes the
nearer one, and the greater one when both are equally near.  `positional` writes the
result without an exponent and with at least one place after the point.
-/
import OutlineBar.Decimal.Binary

namespace OutlineBar.Binary

/-- A decimal number `digits · 10 ^ exponent`. -/
structure Decimal where
  digits : Nat
  exponent : Int
  deriving DecidableEq, Repr, Inhabited

/-- The double in quarters of its last place, the least and the greatest number that
round to it in the same unit, and that unit as a ratio. -/
structure Interval where
  middle : Nat
  low : Nat
  high : Nat
  unitNum : Nat
  unitDen : Nat

/-- The numbers that round to a double.  Below a power of two doubles lie twice as
close. -/
def interval (x : Binary) : Interval :=
  let (unitNum, unitDen) := scaled 2 (x.exponent - 2) 1 1
  let atPower := x.significand == Nat.pow 2 52 && x.exponent != leastExponent
  { middle := 4 * x.significand
    low := 4 * x.significand - (if atPower then 1 else 2)
    high := 4 * x.significand + 2
    unitNum, unitDen }

/-- The greatest power of ten that is at most a positive ratio. -/
def decimalOrder (num den : Nat) : Int :=
  let width := fun n : Nat => ((Nat.toDigits 10 n).length : Int)
  let guess := width num - width den
  let (n, d) := scaled 10 (-guess) num den
  if d ≤ n then guess else guess - 1

/-- The decimal with the given last place that reads back as the double and is
nearest to it, if one of the two next to it does; of two equally near, the greater.
Ten in the first place is one in the place before it. -/
def candidate? (x : Binary) (place : Int) : Option Decimal :=
  let i := x.interval
  let (stepNum, stepDen) := scaled 10 place 1 1
  let quarter := i.unitNum * stepDen
  let step := stepNum * i.unitDen
  let below := i.middle * quarter / step
  let fits := fun digits : Nat =>
    if x.significand % 2 = 0 then i.low * quarter ≤ digits * step ∧ digits * step ≤ i.high * quarter
    else i.low * quarter < digits * step ∧ digits * step < i.high * quarter
  let belowGap := i.middle * quarter - below * step
  let aboveGap := (below + 1) * step - i.middle * quarter
  let nearer := if belowGap < aboveGap then [below, below + 1] else [below + 1, below]
  (nearer.find? fun digits => decide (fits digits)).map fun digits =>
    if digits = 10 then ⟨1, place + 1⟩ else ⟨digits, place⟩

/-- The decimal with the fewest digits that reads back as the double. -/
def shortest (x : Binary) : Decimal :=
  if x.significand = 0 then ⟨0, 0⟩
  else
    let i := x.interval
    let order := decimalOrder (i.middle * i.unitNum) i.unitDen
    ((List.range 17).findSome? fun (count : Nat) => candidate? x (order - count)).getD ⟨0, 0⟩

/-- A decimal written without an exponent, with at least one place. -/
def Decimal.positional (d : Decimal) : String :=
  let digits := Nat.toDigits 10 d.digits
  if 0 ≤ d.exponent then
    String.ofList (digits ++ List.replicate d.exponent.toNat '0') ++ ".0"
  else
    let places := (-d.exponent).toNat
    let padded := List.replicate (places + 1 - digits.length) '0' ++ digits
    String.ofList (padded.take (padded.length - places)) ++ "." ++
      String.ofList (padded.drop (padded.length - places))

end OutlineBar.Binary
