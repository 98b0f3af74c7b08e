/-
Double-precision numbers near a decimal one.

A finite double is `significand · 2 ^ exponent` with a significand below `2 ^ 53` and
an exponent of at least `-1074`; the significand has its top bit set unless the
exponent is the least one.  `Binary.nearest` rounds a decimal number to the nearest
double, a tie to the even significand, in exact integer arithmetic.
-/
namespace OutlineBar

/-- The finite double `significand · 2 ^ exponent`, without its sign. -/
structure Binary where
  significand : Nat
  exponent : Int
  deriving DecidableEq, Repr, Inhabited

namespace Binary

def leastExponent : Int := -1074

/-- The quotient rounded to the nearest integer, a tie to the even one. -/
def roundedQuotient (num den : Nat) : Nat :=
  let q := num / den
  let r := num % den
  if 2 * r < den then q
  else if den < 2 * r then q + 1
  else if q % 2 = 0 then q else q + 1

/-- A ratio multiplied by a power of a base, as a ratio of natural numbers. -/
def scaled (base : Nat) (power : Int) (num den : Nat) : Nat × Nat :=
  if 0 ≤ power then (num * Nat.pow base power.toNat, den)
  else (num, den * Nat.pow base (-power).toNat)

/-- The greatest power of two that is at most a positive ratio. -/
def binaryOrder (num den : Nat) : Int :=
  let guess : Int := (Nat.log2 num : Int) - Nat.log2 den
  let (n, d) := scaled 2 (-guess) num den
  if d ≤ n then guess else guess - 1

/-- The double nearest to a ratio, or nothing when all doubles are too small. -/
def ofRatio? (num den : Nat) : Option Binary :=
  if num = 0 then some ⟨0, leastExponent⟩
  else
    let exponent := max (binaryOrder num den - 52) leastExponent
    let (n, d) := scaled 2 (-exponent) num den
    let significand := roundedQuotient n d
    let result : Binary :=
      if significand = Nat.pow 2 53 then ⟨Nat.pow 2 52, exponent + 1⟩
      else ⟨significand, exponent⟩
    if result.exponent ≤ 971 then some result else none

/-- The double nearest to `digits · 10 ^ exponent`, or nothing when all doubles are
too small.  Numbers that are clearly out of range are not multiplied out. -/
def nearest? (digits : Nat) (exponent : Int) : Option Binary :=
  let order : Int := exponent + (Nat.toDigits 10 digits).length
  if digits = 0 ∨ order < -400 then some ⟨0, leastExponent⟩
  else if 400 < order then none
  else
    let (num, den) := scaled 10 exponent digits 1
    ofRatio? num den

end Binary

end OutlineBar
