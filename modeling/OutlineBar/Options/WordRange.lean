/-
Which integers fit a machine word.
-/
namespace OutlineBar.WordRange

/-- Whether a number fits a signed word of so many bits. -/
def fitsSigned (bits : Nat) (n : Int) : Bool :=
  decide (-(Nat.pow 2 (bits - 1) : Int) ≤ n) && decide (n < (Nat.pow 2 (bits - 1) : Int))

/-- Whether a number fits an unsigned word of so many bits. -/
def fitsUnsigned (bits : Nat) (n : Int) : Bool :=
  decide (0 ≤ n) && decide (n < (Nat.pow 2 bits : Int))

/-- Whether a number fits a word of so many bits, signed or not. -/
def fitsWord (bits : Nat) (n : Int) : Bool := fitsSigned bits n || fitsUnsigned bits n

end OutlineBar.WordRange
