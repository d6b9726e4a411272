import IntConsole.Text.Bytes
import IntConsole.Text.Quoted

/-!
This module contains the settings of a console.
-/

namespace IntConsole

inductive ReadPolicy where
  | propagate
  | fallback (v : Int64)
  deriving DecidableEq

def defaultPrompt : String :=
  "int?"

structure Config where
  prompt : String := defaultPrompt
  flush : Bool := true
  onReadFailure : ReadPolicy := .fallback 0
  deriving DecidableEq

def ReadPolicy.description : ReadPolicy → String
  | propagate => "Propagate"
  | fallback v => "Fallback(" ++ Decimal.text v.toInt ++ ")"

def Config.description (c : Config) : String :=
  "ConsoleConfig \x7b prompt: " ++ Text.quoted c.prompt
    ++ ", flush: " ++ (if c.flush then "true" else "false")
    ++ ", on_read_failure: " ++ c.onReadFailure.description ++ " \x7d"

end IntConsole
