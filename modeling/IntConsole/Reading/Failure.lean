import IntConsole.Byte
import IntConsole.Stream.Fault

/-!
This module contains the ways in which reading an integer can fail.
-/

namespace IntConsole

inductive ReadFailure where
  | stream (f : Fault)
  | endOfInput
  | malformed (found : UInt8)
  | outOfRange (literal : String)
  deriving DecidableEq

namespace ReadFailure

def message : ReadFailure → String
  | stream f => "stream error: " ++ f.message
  | endOfInput => "end of input before an integer was read"
  | malformed found => "expected a decimal digit, found '" ++ Byte.shown found ++ "'"
  | outOfRange literal => "integer literal " ++ literal ++ " does not fit in 64 bits"

def cause? : ReadFailure → Option String
  | stream f => some f.message
  | _ => none

end ReadFailure

end IntConsole
