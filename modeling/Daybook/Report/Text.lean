import Daybook.Report.Consolidation

/-!
# Reports as text

A report is written as one line for each group, `key  total`, with the converted total in brackets, two
spaces deeper for each level. Below the line of a group come the days of its running balance and the
entries that are listed with it. Amounts are written without trailing zeros.
-/

namespace Daybook

def indentation (depth : Nat) : String := String.ofList (List.replicate (2 * depth) ' ')

def renderAmount (a : Decimal) : String := a.normalize.render

def DayPoint.renderLine (depth : Nat) (p : DayPoint) : String :=
  indentation depth ++ p.date.render ++ "  " ++ renderAmount p.balance ++ "\n"

def EntryRef.renderLine (depth : Nat) (e : EntryRef) : String :=
  indentation depth ++ "^" ++ e.voucherId?.getD "-" ++ "^ " ++ renderDate? e.date? ++ " #"
    ++ toString e.index ++ " x" ++ renderAmount e.coefficient ++ "\n"

namespace Group

def renderLine (depth : Nat) (g : Group) : String :=
  let converted := match g.converted? with
    | some amount => "  [" ++ renderAmount amount ++ "]"
    | none        => ""
  indentation depth ++ g.key.render ++ "  " ++ renderAmount g.total ++ converted ++ "\n"

/-- The days and the entries of a group. -/
def renderDetails (depth : Nat) (g : Group) : String :=
  let points := match g.series? with
    | some series => series.points
    | none        => []
  String.join (points.map (·.renderLine (depth + 1)))
    ++ String.join (g.entries.map (·.renderLine (depth + 1)))

mutual

def renderAt (depth : Nat) : Group → String
  | mk key total converted? children entries series? =>
    let g := mk key total converted? children entries series?
    g.renderLine depth ++ g.renderDetails depth ++ renderAllAt (depth + 1) children

/-- Several groups with everything below them. -/
def renderAllAt (depth : Nat) : List Group → String
  | []      => ""
  | g :: gs => renderAt depth g ++ renderAllAt depth gs

end

/-- A group with everything below it, not indented. -/
def renderText (g : Group) : String := renderAt 0 g

end Group

/-- The line of a group without a rate. -/
def Unconverted.renderLine (u : Unconverted) : String :=
  "! " ++ String.intercalate "/" (u.path.map (·.render)) ++ ": " ++ u.cause.message ++ "\n"

/-- A consolidated report: the tree, the grand total, and the groups without a rate. -/
def Consolidated.renderText (c : Consolidated) : String :=
  let total := match c.grandTotal? with
    | some amount => renderAmount amount
    | none        => "?"
  c.subtotal.root.renderText ++ "= " ++ total ++ " " ++ c.currency ++ "\n"
    ++ String.join (c.unconverted.map (·.renderLine))

end Daybook
