import Daybook.Unicode.Age
import Daybook.Unicode.Break
import Daybook.Unicode.CaseFolding
import Daybook.Unicode.Category
import Daybook.Unicode.Property
import Daybook.Unicode.Script

/-!
# Sets of characters

A `CharSet` is an expression for a set of characters: ranges and Unicode properties, combined by the
operations on sets and closed under change of case where a pattern asks for it.
-/

namespace Daybook

/-- A set of characters. -/
inductive CharSet where
  | all
  | range (low high : Nat)
  | category (codes : List String)
  | script (code : String)
  | usedInScript (code : String)
  | property (name : String)
  | age (versions : List String)
  | breaks (segment : Unicode.Segment) (name : String)
  | union (a b : CharSet)
  | inter (a b : CharSet)
  | minus (a b : CharSet)
  | complement (a : CharSet)
  | folded (a : CharSet)
  | foldedAscii (a : CharSet)
  deriving DecidableEq, Hashable

namespace CharSet

def contains : CharSet → Char → Bool
  | all,                _ => true
  | range low high,     c => low ≤ c.toNat && c.toNat ≤ high
  | category codes,     c => codes.contains (Unicode.category c)
  | script code,        c => Unicode.script c == code
  | .usedInScript code, c => Unicode.usedInScript code c
  | property name,      c => Unicode.hasProperty name c
  | age versions,       c => versions.contains (Unicode.age c)
  | breaks segment name, c => segment.breakOf c == name
  | union a b,          c => a.contains c || b.contains c
  | inter a b,          c => a.contains c && b.contains c
  | minus a b,          c => a.contains c && !b.contains c
  | complement a,       c => !a.contains c
  | folded a,           c => a.contains c || (Unicode.caseVariants c).any a.contains
  | foldedAscii a,      c =>
    a.contains c || (c.isAlpha && (a.contains c.toLower || a.contains c.toUpper))

def none : CharSet := complement all

def singleton (c : Char) : CharSet := range c.toNat c.toNat

theorem contains_singleton (c d : Char) : (singleton c).contains d = decide (d = c) := by
  have : d = c ↔ c.toNat ≤ d.toNat ∧ d.toNat ≤ c.toNat := by
    rw [← Nat.le_antisymm_iff (a := c.toNat)]
    exact ⟨fun h => by rw [h], fun h => Char.toNat_inj.1 h.symm⟩
  simp [singleton, contains, this]

def unions : List CharSet → CharSet
  | []      => none
  | a :: as => as.foldl union a

/-- Ranges of characters, given by their ends. -/
def ranges (bounds : List (Char × Char)) : CharSet :=
  unions (bounds.map fun (low, high) => range low.toNat high.toNat)

/-! ### Named sets -/

def digit : CharSet := category ["Nd"]

def space : CharSet := property "whitespace"

/-- Characters of words: letters, marks, digits, connectors and joiners. -/
def word : CharSet :=
  union (property "alphabetic")
    (union (category ["Mc", "Me", "Mn", "Nd", "Pc"]) (property "joincontrol"))

def asciiDigit : CharSet := ranges [('0', '9')]

def asciiSpace : CharSet := ranges [('\t', '\r'), (' ', ' ')]

def asciiWord : CharSet := ranges [('0', '9'), ('A', 'Z'), ('_', '_'), ('a', 'z')]

def asciiClass? : String → Option CharSet
  | "alnum"  => some (ranges [('0', '9'), ('A', 'Z'), ('a', 'z')])
  | "alpha"  => some (ranges [('A', 'Z'), ('a', 'z')])
  | "ascii"  => some (ranges [('\x00', '\x7f')])
  | "blank"  => some (ranges [('\t', '\t'), (' ', ' ')])
  | "cntrl"  => some (ranges [('\x00', '\x1f'), ('\x7f', '\x7f')])
  | "digit"  => some asciiDigit
  | "graph"  => some (ranges [('!', '~')])
  | "lower"  => some (ranges [('a', 'z')])
  | "print"  => some (ranges [(' ', '~')])
  | "punct"  => some (ranges [('!', '/'), (':', '@'), ('[', '`'), ('{', '~')])
  | "space"  => some asciiSpace
  | "upper"  => some (ranges [('A', 'Z')])
  | "word"   => some asciiWord
  | "xdigit" => some (ranges [('0', '9'), ('A', 'F'), ('a', 'f')])
  | _        => .none

/-! ### Properties by name -/

/-- A property name in lower case, without blanks, underscores, hyphens and a leading `is`. -/
def normalizeName (name : String) : String :=
  let isPrefixed := (name.toList.take 2).map Char.toLower == ['i', 's']
  let kept := fun cs : List Char => (cs.filter fun c =>
    c ≠ ' ' && c ≠ '_' && c ≠ '-' && c.toNat < 0x80).map Char.toLower
  if isPrefixed then
    let rest := kept (name.toList.drop 2)
    String.ofList (if rest = ['c'] then ['i', 's', 'c'] else rest)
  else String.ofList (kept name.toList)

/-- The general category with a normalized name. -/
def ofCategory? (name : String) : Option CharSet :=
  if name = "ascii" then some (range 0 0x7F)
  else (Unicode.categoryCodes? name).map category

/-- The property with a name: a binary property, a general category or a script. -/
def ofName? (name : String) : Option CharSet :=
  let name := normalizeName name
  match Unicode.propertyName? name with
  | some full => some (property full)
  | .none =>
    match ofCategory? name with
    | some set => some set
    | .none    => (Unicode.scriptCode? name).map script

/-- The characters whose property has a value. -/
def ofValue? (key value : String) : Option CharSet :=
  let value := normalizeName value
  let ofBreak? := fun segment : Unicode.Segment => (segment.breakName? value).map (breaks segment)
  match normalizeName key with
  | "gc" | "generalcategory"       => ofCategory? value
  | "sc" | "script"                => (Unicode.scriptCode? value).map script
  | "scx" | "scriptextensions"     => (Unicode.scriptCode? value).map CharSet.usedInScript
  | "age"                          => (Unicode.agesUpTo? value).map age
  | "gcb" | "graphemeclusterbreak" => ofBreak? .grapheme
  | "wb" | "wordbreak"             => ofBreak? .word
  | "sb" | "sentencebreak"         => ofBreak? .sentence
  | _                              => .none

/-! ### Ranges -/

def codeSet : CharSet → Unicode.CodeSet
  | all                 => .all
  | range low high      => if low ≤ high then .ofRanges [(low, high)] else .empty
  | category codes      => Unicode.categories.select codes
  | script code         => Unicode.scripts.select [code]
  | .usedInScript code  => Unicode.usedInScriptSet code
  | property name       => Unicode.property name
  | age versions        => Unicode.ages.select versions
  | breaks segment name => segment.breaks.select [name]
  | union a b           => a.codeSet.union b.codeSet
  | inter a b           => a.codeSet.inter b.codeSet
  | minus a b           => a.codeSet.minus b.codeSet
  | complement a        => a.codeSet.complement
  | folded a            => Unicode.foldedSet a.codeSet
  | foldedAscii a       =>
    let lower := Unicode.CodeSet.ofRanges [('a'.toNat, 'z'.toNat)]
    let upper := Unicode.CodeSet.ofRanges [('A'.toNat, 'Z'.toNat)]
    let shift := 'a'.toNat - 'A'.toNat
    (a.codeSet.union ⟨(a.codeSet.inter upper).changes.map (· + shift)⟩).union
      ⟨(a.codeSet.inter lower).changes.map (· - shift)⟩

/-- The code points that are characters: all but the halves of surrogate pairs. -/
def scalarValues : Unicode.CodeSet := .ofRanges [(0, 0xD7FF), (0xE000, 0x10FFFF)]

/-- The ranges of a set in ascending order. -/
def toRanges (s : CharSet) : List (Nat × Nat) := (s.codeSet.inter scalarValues).ranges 0x10FFFF

end CharSet

end Daybook
