/-
White space: the characters with the Unicode property White_Space.

The property covers 25 characters, eleven of them in the run from U+2000 to
U+200A.  Zero-width characters such as U+200B and U+FEFF do not have it.
-/
namespace OutlineBar.Text

/-- The ranges of the property White_Space, ends included, in ascending order. -/
def whiteSpaceRanges : List (Nat × Nat) :=
  [(0x9, 0xd), (0x20, 0x20), (0x85, 0x85), (0xa0, 0xa0), (0x1680, 0x1680), (0x2000, 0x200a),
    (0x2028, 0x2029), (0x202f, 0x202f), (0x205f, 0x205f), (0x3000, 0x3000)]

def inRanges (ranges : List (Nat × Nat)) (code : Nat) : Bool :=
  ranges.any fun (first, last) => first ≤ code && code ≤ last

def isWhiteSpace (c : Char) : Bool := inRanges whiteSpaceRanges c.toNat

def isAllWhiteSpace (text : String) : Bool := text.toList.all isWhiteSpace

end OutlineBar.Text
