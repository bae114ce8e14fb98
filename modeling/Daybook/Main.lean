import Daybook.CommandLine.Check
import Daybook.CommandLine.Report
import Std.Time

/-!
# The program

`daybook check` and `daybook report`. Files are read, ids are drawn and the clock is looked at here;
everything else is in the modules of the commands.
-/

namespace Daybook.CommandLine

def reasonOf : IO.Error → String
  | .noFileOrDirectory .. => "No such file or directory (os error 2)"
  | .permissionDenied ..  => "Permission denied (os error 13)"
  | e                     => toString e

def readPath (path : String) : IO (Except String String) := do
  try
    let text ← IO.FS.readFile path
    return .ok text
  catch e => return .error (reasonOf e)

/-- Read files ahead, so that commands can look at them. -/
def readAhead (paths : List String) : IO FileReader := do
  let contents ← paths.mapM fun path => return (path, ← readPath path)
  return fun path =>
    match contents.find? (·.1 == path) with
    | some (_, content) => content
    | none              => .error "No such file or directory (os error 2)"

/-- Digits that are drawn once for a run, and behind them a number for each id. -/
def drawIds : IO IdSource := do
  let bytes ← IO.getRandomBytes 16
  let drawn := bytes.toList.foldl (fun n b => 256 * n + b.toNat) 0
  return .numbered (toString drawn ++ "-")

def readToday : IO Date := do
  let now ← Std.Time.PlainDate.now
  match Date.of? now.year now.month.toNat now.day.toNat with
  | some today => return today
  | none       => throw (IO.userError "the clock shows no date of the calendar")

/-- Print the result of a command. A failed command exits with its own code. -/
def finish (failure : UInt32) : Except (Fault CommandError) Output → IO UInt32
  | .ok output                   => do
    IO.print output.text
    return output.exitCode.toUInt32
  | .error (.error cause)        => do
    IO.eprint cause.render
    return failure
  | .error (.overflow operation) => do
    IO.eprintln operation.message
    return 101

def refuse (stop : Stop) : IO UInt32 := do
  match stop with
  | .help        => IO.println "usage: daybook check FILE | daybook report -c FILE -l FILE ..."
  | .version     => IO.println "daybook 0.1.0"
  | .wrong cause => IO.eprintln ("error: " ++ cause.message)
  return stop.exitCode.toUInt32

def runCheck (words : List String) : IO UInt32 := do
  match CheckArgs.parse words with
  | .error stop => refuse stop
  | .ok args =>
    let start ← IO.monoMsNow
    let files ← readAhead [args.path]
    let stop ← IO.monoMsNow
    finish 2 (args.run files (toString (stop - start) ++ "ms"))

def runReport (words : List String) : IO UInt32 := do
  match ReportArgs.parse words with
  | .error stop => refuse stop
  | .ok args =>
    let files ← readAhead [args.optionsPath, args.ledgerPath]
    finish 1 (args.run files (← drawIds) (← readToday))

end Daybook.CommandLine

open Daybook.CommandLine in
/-- Run the command that is named first. -/
def main : List String → IO UInt32
  | "check" :: words  => runCheck words
  | "report" :: words => runReport words
  | _                 => refuse (.wrong (.missing "COMMAND"))
