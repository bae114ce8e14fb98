import Daybook.Query.Tree

/-!
# Query expressions

A `QueryExpr` is a query as it is written: texts of patterns instead of patterns, and combinators
with any number of operands. `QueryExpr.compile` makes it a filter tree, or finds what is wrong with it.
-/

namespace Daybook

/-! ### Expressions -/

/-- What a text is asked to be, as it is written. -/
inductive TextExpr where
  | absent
  | exact (text : String)
  | like (wildcard : String)
  | regex (source : String)
  deriving DecidableEq

/-- What an entry and its voucher are asked to be, as it is written. -/
structure CriteriaExpr where
  owner? : Option String
  currency? : Option String
  account? : Option UInt32
  subaccount? : Option SubaccountFilter
  content? : Option TextExpr
  remark? : Option TextExpr
  amount? : Option Decimal
  sign? : Option SignFilter
  kind? : Option VoucherKind
  voucherRemark? : Option TextExpr
  range? : Option DateRange
  deriving DecidableEq

def CriteriaExpr.any : CriteriaExpr :=
  ⟨none, none, none, none, none, none, none, none, none, none, none⟩

/-- The ways to combine queries. -/
inductive Combinator where
  | union
  | intersect
  | subtract
  | complement
  | forAll
  deriving DecidableEq

namespace Combinator

def all : List Combinator := [union, intersect, subtract, complement, forAll]

def name : Combinator → String
  | union      => "union"
  | intersect  => "intersect"
  | subtract   => "subtract"
  | complement => "complement"
  | forAll     => "for_all"

/-- How many operands there have to be, in words. -/
def expectation : Combinator → String
  | union      => "at least 1"
  | intersect  => "at least 1"
  | subtract   => "2"
  | complement => "1"
  | forAll     => "1 or 2"

def ofName? (name : String) : Option Combinator := all.find? (·.name == name)

@[simp] theorem ofName?_name (c : Combinator) : ofName? c.name = some c := by
  cases c <;> decide +kernel

end Combinator

/-- A query as it is written. -/
inductive QueryExpr where
  | atom (criteria : CriteriaExpr)
  | combine (combinator : Combinator) (operands : List QueryExpr)

def QueryExpr.onAccount (account : UInt32) : QueryExpr :=
  .atom { CriteriaExpr.any with account? := some account }

/-! ### Errors -/

/-- What may be wrong with a query or with the templates it uses. A cycle lists the names on it and ends
with the one it began with. -/
inductive QueryError where
  | unknownTemplate (name : String)
  | cyclicReference (chain : List String)
  | duplicateTemplate (name : String)
  | arity (combinator : Combinator) (found : Nat)
  | pattern (source : String)
  deriving DecidableEq

def QueryError.message : QueryError → String
  | unknownTemplate name   => "unknown named query: " ++ name
  | cyclicReference chain  => "cyclic named query reference: " ++ String.intercalate " -> " chain
  | duplicateTemplate name => "duplicate named query: " ++ name
  | arity combinator found =>
    combinator.name ++ " expects " ++ combinator.expectation ++ " operand(s), found "
      ++ toString found
  | pattern source         => "invalid pattern: " ++ source

/-! ### Compilation -/

/-- The filter of a text that may be left open. -/
def TextExpr.compile : Option TextExpr → Except QueryError TextFilter
  | none                => .ok .any
  | some absent         => .ok .absent
  | some (exact text)   => .ok (.exact text)
  | some (like source)  =>
    match Wildcard.compile? source with
    | some pattern => .ok (.wildcard pattern)
    | none         => .error (.pattern source)
  | some (regex source) =>
    match RegexPattern.compile? source with
    | some pattern => .ok (.regex pattern)
    | none         => .error (.pattern source)

def CriteriaExpr.compile (c : CriteriaExpr) : Except QueryError Criteria := do
  let content ← TextExpr.compile c.content?
  let remark ← TextExpr.compile c.remark?
  let voucherRemark ← TextExpr.compile c.voucherRemark?
  return {
    entry := {
      owner? := c.owner?
      currency? := c.currency?
      account? := c.account?
      subaccount := c.subaccount?.getD .any
      content := content
      remark := remark
      amount? := c.amount?
      sign := c.sign?.getD .either }
    voucher := ⟨c.kind?, voucherRemark⟩
    range? := c.range? }

/-- The tree of a combinator, if it has as many operands as it needs. -/
def Combinator.apply : Combinator → List FilterTree → Except QueryError FilterTree
  | union,      t :: ts                => .ok (.union (t :: ts))
  | intersect,  t :: ts                => .ok (.intersect (t :: ts))
  | subtract,   [left, right]          => .ok (.subtract left right)
  | complement, [operand]              => .ok (.complement operand)
  | forAll,     [predicate]            => .ok (.forAll predicate)
  | forAll,     [domain, predicate]    => .ok (.forAllIn domain predicate)
  | combinator, operands               => .error (.arity combinator operands.length)

namespace QueryExpr

mutual

/-- The filter tree of a query. Errors in operands come before errors in their number. -/
def compile : QueryExpr → Except QueryError FilterTree
  | atom criteria               => return .atom (← criteria.compile)
  | combine combinator operands => do combinator.apply (← compileAll operands)

/-- The filter trees of several queries. -/
def compileAll : List QueryExpr → Except QueryError (List FilterTree)
  | []      => .ok []
  | e :: es => return (← e.compile) :: (← compileAll es)

end

end QueryExpr

end Daybook
