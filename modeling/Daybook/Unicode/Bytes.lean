import Daybook.Powers

/-!
# Bytes of characters

In UTF-8 a character takes one to four bytes: a first byte that says how many there are, and tail bytes
of six bits each. A range of characters is cut into parts, each of which takes all combinations of
certain ranges of bytes.
-/

namespace Daybook

namespace Unicode

/-- Consecutive bytes. -/
structure ByteRange where
  low : Nat
  high : Nat
  deriving DecidableEq

namespace ByteRange

def single (n : Nat) : ByteRange := ⟨n, n⟩

/-- The first byte of tails. -/
def tailMark : Nat := 0x80

def tail : ByteRange := ⟨tailMark, tailMark + 63⟩

end ByteRange

/-- Cut the numbers from `low` to `high` into parts. A number is written as a byte counted from `mark`
and a number of tail bytes. -/
def cutNumbers (mark : Nat) : Nat → Nat → Nat → List (List ByteRange)
  | 0,         low, high => [[⟨mark + low, mark + high⟩]]
  | tails + 1, low, high =>
    let block := twoPow (6 * (tails + 1))
    let inside := fun lead least greatest =>
      (cutNumbers ByteRange.tailMark tails least greatest).map (.single (mark + lead) :: ·)
    if low / block = high / block then inside (low / block) (low % block) (high % block)
    else
      let begun := low % block ≠ 0
      let broken := high % block ≠ block - 1
      let first := if begun then low / block + 1 else low / block
      let beyond := if broken then high / block else high / block + 1
      (if begun then inside (low / block) (low % block) (block - 1) else []) ++
      (if first < beyond then
        [⟨mark + first, mark + (beyond - 1)⟩ :: List.replicate (tails + 1) .tail] else []) ++
      (if broken then inside (high / block) 0 (high % block) else [])

/-- The characters that are written alike. -/
structure Form where
  first : Nat
  last : Nat
  mark : Nat
  tails : Nat

/-- The forms of characters in ascending order. -/
def forms : List Form :=
  [⟨0, 0x7F, 0, 0⟩, ⟨0x80, 0x7FF, 0xC0, 1⟩, ⟨0x800, 0xD7FF, 0xE0, 2⟩, ⟨0xE000, 0xFFFF, 0xE0, 2⟩,
   ⟨0x10000, 0x10FFFF, 0xF0, 3⟩]

/-- The bytes of the characters in a range. -/
def bytesOfRange (low high : Nat) : List (List ByteRange) :=
  forms.flatMap fun form =>
    let low := max low form.first
    let high := min high form.last
    if low ≤ high then cutNumbers form.mark form.tails low high else []

example : bytesOfRange 0x61 0xE9 =
    [[⟨0x61, 0x7F⟩], [.single 0xC2, ⟨0x80, 0xBF⟩], [.single 0xC3, ⟨0x80, 0xA9⟩]] := by
  decide +kernel

end Unicode

end Daybook
