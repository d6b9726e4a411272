import IntConsole.Builtin
import IntConsole.Config
import IntConsole.Reading.Failure
import IntConsole.Stream.Sink

/-!
This module contains the entries that a console and the program around it make in their log.
-/

namespace IntConsole

namespace Log

inductive Level where
  | error
  | warn
  | info
  | debug
  | trace
  deriving DecidableEq

namespace Level

def name : Level → String
  | error => "ERROR"
  | warn => "WARN"
  | info => "INFO"
  | debug => "DEBUG"
  | trace => "TRACE"

def verbosity : Level → Nat
  | error => 1
  | warn => 2
  | info => 3
  | debug => 4
  | trace => 5

def all : List Level :=
  [error, warn, info, debug, trace]

end Level

inductive Entry where
  | writeFailed (failure : WriteFailure)
  | readFailed (failure : ReadFailure) (used : Int64)
  | called (builtin : Builtin) (args : List Int64)
  | running (calls : Nat) (config : Config)
  | runningExported (calls : Nat)
  deriving DecidableEq

namespace Entry

def level : Entry → Level
  | writeFailed _ => .debug
  | readFailed _ _ => .warn
  | called _ _ => .trace
  | running _ _ => .debug
  | runningExported _ => .debug

def target : Entry → String
  | writeFailed _ => "crux_rt::console"
  | readFailed _ _ => "crux_rt::config"
  | called _ _ => "crux_rt::console"
  | running _ _ => "crux_rt"
  | runningExported _ => "crux_rt"

def message : Entry → String
  | writeFailed failure => "console write failed: " ++ failure.message
  | readFailed failure used =>
    "readInt failed (" ++ failure.message ++ "), using " ++ Decimal.text used.toInt
  | called _ _ => "call"
  | running calls config =>
    "running " ++ Decimal.text calls ++ " call(s) with " ++ config.description
  | runningExported calls => "running " ++ Decimal.text calls ++ " call(s) through the C ABI"

def fields : Entry → List (String × String)
  | called builtin args =>
    [("builtin", builtin.symbol),
      ("args", "[" ++ ", ".intercalate (args.map fun v => Decimal.text v.toInt) ++ "]")]
  | _ => []

def fieldNames (e : Entry) : List String :=
  "message" :: e.fields.map Prod.fst

end Entry

end Log

end IntConsole
