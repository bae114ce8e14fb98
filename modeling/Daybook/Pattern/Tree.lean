import Daybook.Pattern.Regex

/-!
# Trees of patterns

A `Tree` is a pattern as it was written: parts in a row, alternatives and groups nest as in the text.
`Tree.regex` is what it matches.
-/

namespace Daybook.Pattern

/-- A pattern as it was written. Groups that keep what they match are numbered; the others leave no
trace but the nesting of their contents. -/
inductive Tree where
  | empty
  | set (s : CharSet)
  | anchor (a : Anchor)
  | seq (ts : List Tree)
  | alt (ts : List Tree)
  | times (t : Tree) (least : Nat) (most? : Option Nat)
  | group (number : Nat) (t : Tree)

namespace Tree

mutual

/-- The expression that a tree describes. -/
def regex : Tree → Regex
  | empty               => .empty
  | set s               => .set s
  | anchor a            => .anchor a
  | seq ts              => regexOfSeq ts
  | alt ts              => regexOfAlt ts
  | times t least most? => .times least most? t.regex
  | group _ t           => t.regex

def regexOfSeq : List Tree → Regex
  | []      => .empty
  | [t]     => t.regex
  | t :: ts => .seq t.regex (regexOfSeq ts)

def regexOfAlt : List Tree → Regex
  | []      => .empty
  | [t]     => t.regex
  | t :: ts => .alt t.regex (regexOfAlt ts)

end

end Tree

end Daybook.Pattern
