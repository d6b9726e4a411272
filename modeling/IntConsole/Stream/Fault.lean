/-!
This module contains the faults that a stream can report.
-/

namespace IntConsole

inductive FaultKind where
  | other
  | brokenPipe
  | interrupted
  | wouldBlock
  | timedOut
  | unexpectedEnd
  | invalidData
  | permissionDenied
  | connectionReset
  deriving DecidableEq

def FaultKind.description : FaultKind → String
  | other => "other error"
  | brokenPipe => "broken pipe"
  | interrupted => "operation interrupted"
  | wouldBlock => "operation would block"
  | timedOut => "timed out"
  | unexpectedEnd => "unexpected end of file"
  | invalidData => "invalid data"
  | permissionDenied => "permission denied"
  | connectionReset => "connection reset"

structure Fault where
  kind : FaultKind
  text : Option String := none
  deriving DecidableEq

/--
The fault of an input from which nothing more has arrived yet.
-/
def Fault.notReady : Fault where
  kind := .wouldBlock

def Fault.message (f : Fault) : String :=
  f.text.getD f.kind.description

end IntConsole
