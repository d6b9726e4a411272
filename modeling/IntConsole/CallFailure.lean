import IntConsole.Reading.Failure
import IntConsole.Text.Bytes

/-!
This module contains the ways in which the call of a builtin can fail.
-/

namespace IntConsole

inductive CallFailure where
  | read (e : ReadFailure)
  | unknownBuiltin (name : String)
  | arity (name : String) (expected found : Nat)
  deriving DecidableEq

namespace CallFailure

def message : CallFailure → String
  | read e => e.message
  | unknownBuiltin name => "no builtin named `" ++ name ++ "`"
  | arity name expected found =>
    "`" ++ name ++ "` takes " ++ Decimal.text expected ++ " argument(s), got " ++ Decimal.text found

def cause? : CallFailure → Option String
  | read e => e.cause?
  | _ => none

end CallFailure

end IntConsole
