import IntConsole.Exported
import IntConsole.Script.Call
import IntConsole.Session

/-!
This module contains the run of a script: its calls are made one after the other until one fails,
and the value that was read last is handed on to the calls that have none of their own.
-/

namespace IntConsole

namespace Script

abbrev Route (σ : Type := Output) :=
  Console σ → Builtin → List Int64 → Except CallFailure (Option Int64) × Console σ

variable {σ : Type}

def Route.direct [Sink σ] (cfg : Config) : Route σ :=
  fun c b args => c.call cfg b args

def Route.exported [Sink σ] : Route σ :=
  Exported.call

structure Invocation where
  builtin : Builtin
  args : List Int64
  record : Record

structure Outcome (σ : Type := Output) where
  invocations : List Invocation
  failure : Option Failure
  console : Console σ

namespace Outcome

def prepend (i : Invocation) (o : Outcome σ) : Outcome σ :=
  { o with invocations := i :: o.invocations }

def out (o : Outcome σ) : List UInt8 :=
  o.invocations.flatMap fun i => i.record.out

def log (o : Outcome σ) : List Log.Entry :=
  o.invocations.flatMap fun i => i.record.log

end Outcome

variable [Sink σ]

def runFrom (route : Route σ) (lastRead : Option Int64) (c : Console σ) : List Call → Outcome σ
  | [] => ⟨[], none, c⟩
  | call :: calls =>
    match call.arguments? lastRead with
    | none => ⟨[], some (.nothingRead call.builtin), c⟩
    | some args =>
      let (record, c) := c.observe fun c => route c call.builtin args
      let invocation := ⟨call.builtin, args, record⟩
      match record.result with
      | .error e => ⟨[invocation], some (.call e), c⟩
      | .ok read => (runFrom route (read <|> lastRead) c calls).prepend invocation

def run (route : Route σ) (c : Console σ) (calls : List Call) : Outcome σ :=
  runFrom route none c calls

def execute (route : Route σ) (c : Console σ) (texts : List String) : Outcome σ :=
  match parse texts with
  | .error e => ⟨[], some e, c⟩
  | .ok calls => run route c calls

end Script

end IntConsole
