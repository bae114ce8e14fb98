/-!
# Blank characters

The white space of the Unicode standard: 25 characters in ten ranges.
-/

namespace Daybook

namespace Text

/-- The ranges of blank characters, ascending and apart. -/
def blankRanges : List (Nat × Nat) :=
  [(0x09, 0x0D), (0x20, 0x20), (0x85, 0x85), (0xA0, 0xA0), (0x1680, 0x1680), (0x2000, 0x200A),
   (0x2028, 0x2029), (0x202F, 0x202F), (0x205F, 0x205F), (0x3000, 0x3000)]

/-- Whether a code point lies in one of the ranges. -/
def inRanges (ranges : List (Nat × Nat)) (n : Nat) : Bool :=
  ranges.any fun (low, high) => low ≤ n && n ≤ high

/-- Whether a character is white space. -/
def isBlank (c : Char) : Bool := inRanges blankRanges c.toNat

/-- Whether a text has no other characters than white space. -/
def allBlank (s : String) : Bool := s.toList.all isBlank

/-- A text without the white space in front. -/
def trimStart (cs : List Char) : List Char := cs.dropWhile isBlank

end Text

end Daybook
