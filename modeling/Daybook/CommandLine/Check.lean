import Daybook.CommandLine.Arguments
import Daybook.CommandLine.Error
import Daybook.Json.Printer
import Daybook.Voucher.Validation

/-!
# The check command

`check` reads a file of vouchers and lists every rule that a voucher breaks, as text or as a document.
It succeeds if there is nothing to list.
-/

namespace Daybook.CommandLine

/-- What `check` is asked for. -/
structure CheckArgs where
  path : String
  verbose : Bool
  quiet : Bool
  asJson : Bool

def CheckArgs.grammar : Grammar where
  options := [
    .switch "verbose" (some 'v'),
    .switch "quiet" (some 'q'),
    .valued "format" (some 'f') fun value => ["text", "json"].contains value]
  positionals := 1

/-- Read the words of a call of `check`. -/
def CheckArgs.parse (words : List String) : Except Stop CheckArgs := do
  let g ← readWords grammar .empty words
  match g.positionals with
  | path :: _ =>
    return {
      path := path
      verbose := g.has "verbose"
      quiet := g.has "quiet"
      asJson := g.value? "format" == some "json" }
  | [] => throw (.wrong (.missing "FILE"))

/-! ### Output -/

def findingLine (f : Finding) : String :=
  let context := match f.rule.context? with
    | some context => " (" ++ context ++ ")"
    | none         => ""
  renderDate? f.date? ++ " " ++ f.voucherId?.getD "<no id>" ++ ": " ++ f.rule.render ++ context ++ "\n"

def summaryLine (vouchers findings : Nat) : String :=
  if findings = 0 then toString vouchers ++ " vouchers, no errors\n"
  else toString vouchers ++ " vouchers, " ++ toString findings ++ " errors\n"

def findingJson (f : Finding) : Json := .objOf [
  ("voucher_id", f.voucherId?.map toJson),
  ("date", some (toJson f.date?)),
  ("code", some (.str f.rule.code)),
  ("message", some (.str f.rule.message)),
  ("context", f.rule.context?.map toJson)]

/-- What `check` prints about vouchers, given the time it took. -/
def CheckArgs.render (args : CheckArgs) (elapsed : String) (vouchers : List Voucher)
    (found : List Finding) : String :=
  if args.quiet then ""
  else if args.asJson then
    (Json.obj [
      ("diagnostics", .arr (found.map findingJson)),
      ("voucher_count", .nat vouchers.length),
      ("error_count", .nat found.length)]).renderPretty ++ "\n"
  else
    String.join (found.map findingLine) ++ summaryLine vouchers.length found.length
      ++ (if args.verbose then "checked in " ++ elapsed ++ "\n" else "")

/-! ### The command -/

def CheckArgs.run (args : CheckArgs) (files : FileReader) (elapsed : String) :
    Except (Fault CommandError) Output :=
  match loadVouchers files args.path with
  | .error cause  => .error (.error (.load cause))
  | .ok vouchers => do
    let found ← findings vouchers
    return ⟨if found.isEmpty then 0 else 1, args.render elapsed vouchers found⟩

end Daybook.CommandLine
