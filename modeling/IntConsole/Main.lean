import IntConsole.Program
import IntConsole.Script.Turn

/-!
This module contains the command line program. Before it waits for input, it shows everything that
has been written by then.
-/

open IntConsole

def writeOut (bytes : List UInt8) : IO Unit := do
  let stdout ← IO.getStdout
  stdout.write ⟨bytes.toArray⟩
  stdout.flush

def writeLog (logger : Log.Logger) (entries : List Log.Entry) : IO Unit := do
  (← IO.getStderr).putStr (logger.render entries)

partial def nextEvents (digits : Array UInt8) : IO (List Event) := do
  let bytes ← (← IO.getStdin).read 1
  match bytes.toList with
  | [] => return [.data digits.toList, .endOfInput]
  | b :: _ =>
    if Byte.isDigit b then
      -- No read ends at a digit, so that a run of digits can be waited for as a whole.
      nextEvents (digits.push b)
    else
      return [.data (digits.push b).toList]

/--
Run calls turn by turn. The turn before has already shown the first `shown` bytes and the first
`told` entries.
-/
partial def runCalls (route : Script.Route) (logger : Log.Logger) (lastRead : Option Int64)
    (c : Console) (calls : List Script.Call) (shown told : Nat) : IO (Option Script.Failure) := do
  match Script.turn route lastRead c calls with
  | .ended outcome =>
    writeOut (outcome.out.drop shown)
    writeLog logger (outcome.log.drop told)
    return outcome.failure
  | .asks wait =>
    writeOut ((wait.made.out ++ wait.out).drop shown)
    writeLog logger ((wait.made.log ++ wait.log).drop told)
    let events ← nextEvents #[]
    runCalls route logger wait.lastRead (wait.made.console.supply events) wait.calls
      wait.out.length wait.log.length

def main (args : List String) : IO UInt32 := do
  let logSetting ← IO.getEnv "RUST_LOG"
  let stderr ← IO.getStderr
  match Program.reader? args with
  | some (settings, calls) =>
    let logger : Log.Logger := .ofSetting logSetting settings.verbose
    writeLog logger [Program.announcement settings calls]
    match ← runCalls (Program.route settings) logger none {} calls 0 0 with
    | none => return 0
    | some e =>
      stderr.putStr (Program.failureText e)
      return 1
  | none =>
    let report := Program.run args logSetting {}
    writeOut report.console.output.accepted
    stderr.putStr report.stderr
    if report.status = 2 then
      stderr.putStr "\n"
    return UInt32.ofNat report.status
