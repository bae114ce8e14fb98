import Daybook.Pattern.Plan
import Daybook.Unicode.Bytes
import Std.Data.HashMap

/-!
# Layouts

A pattern is compiled to a graph of states, and patterns whose graphs take too many bytes are refused.
`Plan.fits` decides that: it lays the plan out twice, to be read forwards and backwards, and counts
the bytes of the states. Nothing else of the graphs matters, so they are not built.

A state that branches holds an entry for every state it leads to. A set of characters is laid out as the
bytes of its characters, and what many of them end with is shared as far as a table of limited size
remembers it.
-/

namespace Daybook.Pattern

open Unicode (ByteRange bytesOfRange)

/-! ### States -/

/-- What has been laid out: how many states there are, how many bytes they take beyond their frames, and
whether the end of the latest part branches. -/
structure Layout where
  states : Nat
  extra : Nat
  endBranches : Bool

namespace Layout

/-- The bytes of a state's frame. -/
def frame : Nat := 32

/-- The bytes of a transition in a state that has several. -/
def transition : Nat := 8

/-- The bytes of an entry in a branching state. -/
def entry : Nat := 4

/-- The most bytes that a layout may take. -/
def limit : Nat := 10 * 1024 * 1024

def bytes (l : Layout) : Nat := l.states * frame + l.extra

def none : Layout := ⟨0, 0, false⟩

def add? (l : Layout) (states extra : Nat) : Option Layout :=
  let l : Layout := ⟨l.states + states, l.extra + extra, false⟩
  if l.bytes ≤ limit then some l else .none

/-- Add a state. -/
def push? (l : Layout) : Option Layout := l.add? 1 0

/-- Add a state with transitions. A single one needs no list. -/
def pushTransitions? (l : Layout) (count : Nat) : Option Layout :=
  l.add? 1 (if count = 1 then 0 else transition * count)

/-- Add entries to branching states. -/
def link (l : Layout) (entries : Nat) : Layout := { l with extra := l.extra + entry * entries }

/-- Lead from the end of the latest part to the next one. -/
def connect (l : Layout) : Layout :=
  if l.endBranches then { l.link 1 with endBranches := false } else l

/-- Let the latest state, which branches, be the end of a part. -/
def branching (l : Layout) : Layout := { l with endBranches := true }

/-! ### Sets -/

/-- Mix a number into a slot number. -/
def mix (h : UInt64) (n : Nat) : UInt64 := (h ^^^ n.toUInt64) * 1099511628211

/-- The slot of a list of numbers in a table of some size. -/
def slotOf (size : Nat) (ns : List Nat) : Nat :=
  (ns.foldl mix 14695981039346656037).toNat % size

/-- A transition: the bytes that it reads, and the state that it leads to. -/
structure Edge where
  range : ByteRange
  target : Nat
  deriving DecidableEq

def Edge.numbers (e : Edge) : List Nat := [e.range.low, e.range.high, e.target]

/-- States that can be shared. A slot holds the latest state that fell into it. -/
structure Shared (α : Type) where
  layout : Layout
  table : Std.HashMap Nat (α × Nat)

/-- The state with some contents: a shared one or a new one. -/
def Shared.find? {α : Type} [DecidableEq α] (s : Shared α) (slot : Nat) (contents : α)
    (add? : Layout → Option Layout) : Option (Nat × Shared α) :=
  let fresh : Option (Nat × Shared α) :=
    (add? s.layout).map fun layout =>
      (s.layout.states, ⟨layout, s.table.insert slot (contents, s.layout.states)⟩)
  match s.table[slot]? with
  | some (known, state) => if known = contents then some (state, s) else fresh
  | .none               => fresh

/-- Group sequences that begin alike and follow each other. -/
def groupByFirst (sequences : List (List ByteRange)) :
    List (ByteRange × List (List ByteRange)) :=
  sequences.foldr (fun sequence groups =>
    match sequence, groups with
    | [],            groups => groups
    | range :: rest, (first, rests) :: more =>
      if first = range then (first, rest :: rests) :: more
      else (range, [rest]) :: (first, rests) :: more
    | range :: rest, [] => [(range, [rest])]) []

/-- The state that reads one of several sequences of at most `depth` bytes and leads to `target`. -/
def readSequences? (target : Nat) : Nat → List (List ByteRange) → Shared (List Edge) →
    Option (Nat × Shared (List Edge))
  | 0,         _,         s => some (target, s)
  | depth + 1, sequences, s =>
    if sequences.all (·.isEmpty) then some (target, s)
    else do
      let (edges, s) ← (groupByFirst sequences).foldlM (fun (edges, s) (range, rests) => do
        let (next, s) ← readSequences? target depth rests s
        some (⟨range, next⟩ :: edges, s)) (([] : List Edge), s)
      let edges := edges.reverse
      s.find? (slotOf 10000 (edges.flatMap Edge.numbers)) edges
        (·.add? 1 (transition * edges.length))

/-- A set that is read forwards: characters share what they end with. -/
def addForwards? (sequences : List (List ByteRange)) (l : Layout) : Option Layout := do
  let target := l.states
  let (_, s) ← readSequences? target 4 sequences ⟨← l.push?, ∅⟩
  some s.layout

/-- A set that is read backwards: characters share what they begin with. -/
def addBackwards? (sequences : List (List ByteRange)) (l : Layout) : Option Layout := do
  let last := l.states + 1
  let s ← sequences.foldlM (fun s sequence => do
    let (_, s) ← sequence.foldlM (fun (target, s) range =>
      let edge : Edge := ⟨range, target⟩
      Shared.find? s (slotOf 1000 [target, range.low, range.high]) edge push?) (last, s)
    some { s with layout := s.layout.link 1 }) (⟨← l.add? 2 0, ∅⟩ : Shared Edge)
  some s.layout

end Layout

/-- The direction in which texts are read. -/
inductive Direction where
  | forwards
  | backwards
  deriving DecidableEq

namespace Layout

/-- Add a set, given by its ranges. One of ASCII characters is a single step. -/
def addSet? (d : Direction) (ranges : List (Nat × Nat)) (l : Layout) : Option Layout :=
  if ranges.all fun (_, high) => high < 0x80 then l.add? 2 (transition * ranges.length)
  else
    let sequences := ranges.flatMap fun (low, high) => bytesOfRange low high
    match d with
    | .forwards  => l.addForwards? sequences
    | .backwards => l.addBackwards? sequences

/-! ### Texts -/

/-- The bytes of a text in the order in which they are read. -/
def bytesOfText (d : Direction) (cs : List Char) : List Nat :=
  match d with
  | .forwards  => cs.flatMap fun c => (String.utf8EncodeChar c).map UInt8.toNat
  | .backwards => cs.flatMap fun c => ((String.utf8EncodeChar c).map UInt8.toNat).reverse

/-- Cut a list of words at the empty ones. -/
def cutAtEmpty (words : List (List Nat)) : List (List (List Nat)) :=
  words.foldr (fun word parts =>
    match word, parts with
    | [], parts         => [] :: parts
    | word, part :: parts => (word :: part) :: parts
    | word, []          => [[word]]) [[]]

/-- How often a word ends at the root of a tree of words. Words that end before any other has begun count
once. -/
def endings (words : List (List Nat)) : Nat :=
  let early := (words.takeWhile (·.isEmpty)).length
  words.countP (·.isEmpty) - (early - 1)

/-- The words in a part that begin with a byte, without it. -/
def restsAfter (byte : Nat) (words : List (List Nat)) : List (List Nat) :=
  words.filterMap fun
    | b :: rest => if b = byte then some rest else .none
    | []        => .none

/-- The states that tell several words of at most `depth` bytes apart. -/
def addWords? : Nat → List (List Nat) → Layout → Option Layout
  | 0,         _,     l => some l
  | depth + 1, words, l =>
    if words.all (·.isEmpty) then some l
    else do
      let parts := (cutAtEmpty words).map fun part => (part, (part.filterMap (·.head?)).eraseDups)
      let l ← parts.foldlM (fun l (part, firsts) => do
        let l ← firsts.foldlM (fun l byte => addWords? depth (restsAfter byte part) l) l
        if firsts.isEmpty then some l else l.pushTransitions? firsts.length) l
      let branches := (parts.filter fun (_, firsts) => !firsts.isEmpty).length
      l.add? 1 (entry * (branches + endings words))

/-- A choice between texts. -/
def addTexts? (texts : List (List Nat)) (l : Layout) : Option Layout := do
  addWords? ((texts.map List.length).foldl max 0) texts (← l.push?)

/-! ### Repetitions -/

def addCopies? (part : Layout → Option Layout) : Nat → Layout → Option Layout
  | 0,     l => some l
  | n + 1, l =>
    match part l.connect with
    | some l => addCopies? part n l
    | .none  => .none

/-- Copies of a part, each of which can be the last one, or be left out with all that follow. -/
def addOptional? (part : Layout → Option Layout) : Nat → Layout → Option Layout
  | 0,     l => some l
  | n + 1, l =>
    match l.connect.push? with
    | .none => .none
    | some l =>
      match part (l.link 2) with
      | some l => addOptional? part n l
      | .none  => .none

/-- A repetition of a part, which may be one that always reads something. -/
def addTimes? (part : Layout → Option Layout) (alwaysReads : Bool) (l : Layout) :
    Nat → Option Nat → Option Layout
  | 0, some 1 => do
    let l ← part (← l.push?)
    (l.connect.link 2).push?
  | 0, .none =>
    if alwaysReads then do
      let l ← part (← l.push?)
      some (l.connect.link 1).branching
    else do
      let l ← part l
      (l.connect.link 4).add? 3 0
  | least, .none => do
    let l ← addCopies? part least l
    some ((← l.connect.push?).link 1).branching
  | 0, some most => do
    let l ← addOptional? part most (← l.add? 2 0)
    some l.connect
  | least, some most => do
    let l ← addCopies? part least l
    if least = most then some l
    else do
      let l ← addOptional? part (most - least) (← l.connect.push?)
      some l.connect

end Layout

/-! ### Plans -/

namespace Plan

def text? : Plan → Option (List Char)
  | text cs => some cs
  | _       => none

mutual

/-- Lay a plan out behind other states. -/
def layOut? (d : Direction) : Plan → Layout → Option Layout
  | empty,               l => l.push?
  | text cs,             l => l.add? (Layout.bytesOfText d cs).length 0
  | set ranges,          l => l.addSet? d ranges
  | anchor _,            l => l.push?
  | seq ps,              l => layOutRow? d ps l
  | alt ps,              l =>
    match ps.mapM text? with
    | some texts => l.addTexts? (texts.map (Layout.bytesOfText d))
    | none       => layOutChoice? d ps 0 l
  | times p least most?, l =>
    Layout.addTimes? (p.layOut? d) (p.leastLength?.any (0 < ·)) l least most?
  | group _ p,           l =>
    match d with
    | .backwards => p.layOut? d l
    | .forwards  => do
      let l ← p.layOut? d (← l.push?)
      l.connect.push?

/-- Lay plans out in a row. -/
def layOutRow? (d : Direction) : List Plan → Layout → Option Layout
  | [],      l => some l
  | p :: ps, l =>
    match p.layOut? d l.connect with
    | some l => layOutRow? d ps l
    | none   => none

/-- Lay alternatives out, some of which are done. The states where they part and meet come behind the
second one. -/
def layOutChoice? (d : Direction) : List Plan → Nat → Layout → Option Layout
  | [],      _,    l => some l
  | p :: ps, done, l =>
    match p.layOut? d l with
    | none   => none
    | some l =>
      let l := l.connect.link 1
      if done = 1 then
        match l.add? 2 0 with
        | some l => layOutChoice? d ps (done + 1) l
        | none   => none
      else layOutChoice? d ps (done + 1) l

end

/-- Lay out all that is needed to search for a plan. A search that is not bound to the beginning of the
text passes over bytes first, and one that goes forwards keeps the bounds of the match. -/
def layOutSearch? (d : Direction) (p : Plan) : Option Layout := do
  let l ← if p.isAnchored then Layout.none.push?
    else (Layout.none.add? 3 Layout.transition).map (·.link 2)
  let l ← match d with
    | .forwards => do
      let l ← p.layOut? d (← l.push?)
      l.connect.push?
    | .backwards => p.layOut? d l
  l.connect.push?

/-- Whether the compiled form of a plan is small enough in both directions. -/
def fits (p : Plan) : Bool :=
  (p.layOutSearch? .forwards).isSome && (p.reversed.layOutSearch? .backwards).isSome

end Plan

end Daybook.Pattern
