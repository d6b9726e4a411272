import IntConsole.Log.Entry

/-!
This module contains the way in which a policy deals with the outcome of a read.
-/

namespace IntConsole

def ReadPolicy.resolve (policy : ReadPolicy) (read : Except ReadFailure Int64) :
    Except ReadFailure Int64 × List Log.Entry :=
  match read, policy with
  | .ok v, _ => (.ok v, [])
  | .error e, .propagate => (.error e, [])
  | .error e, .fallback v => (.ok v, [.readFailed e v])

end IntConsole
