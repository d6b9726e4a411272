import IntConsole.Console

/-!
This module contains sessions: steps that are taken one after the other on a console, with a record
of what can be observed of each.
-/

namespace IntConsole

structure Record where
  result : Except CallFailure (Option Int64)
  out : List UInt8
  flushes : Nat
  position : Nat
  log : List Log.Entry

variable {σ : Type}

def Console.observe [Sink σ] (c : Console σ)
    (act : Console σ → Except CallFailure (Option Int64) × Console σ) : Record × Console σ :=
  let (result, after) := act { c with log := [] }
  let record : Record := {
    result
    out := (Sink.accepted after.output).drop (Sink.accepted c.output).length
    flushes := Sink.flushes after.output - Sink.flushes c.output
    position := after.input.position
    log := after.log
  }
  (record, after)

inductive Step where
  | printInt (v : Int64)
  | printBool (v : Int64)
  | println
  | readInt
  | readIntWithPolicy
  | call (b : Builtin) (args : List Int64)
  | callByName (name : String) (args : List Int64)
  deriving DecidableEq

namespace Step

def ofRead : Except ReadFailure Int64 × Console σ → Except CallFailure (Option Int64) × Console σ
  | (.ok v, c) => (.ok (some v), c)
  | (.error e, c) => (.error (.read e), c)

variable [Sink σ]

def act (cfg : Config) (c : Console σ) : Step → Except CallFailure (Option Int64) × Console σ
  | printInt v => (.ok none, c.printInt cfg v)
  | printBool v => (.ok none, c.printBool cfg v)
  | println => (.ok none, c.println cfg)
  | readInt => ofRead (c.readInt cfg)
  | readIntWithPolicy => ofRead (c.readIntWithPolicy cfg)
  | call b args => c.call cfg b args
  | callByName name args => c.callByName cfg name args

end Step

namespace Session

variable [Sink σ]

def run (cfg : Config) (c : Console σ) : List Step → List Record × Console σ
  | [] => ([], c)
  | step :: steps =>
    let (record, c) := c.observe (step.act cfg)
    let (records, c) := run cfg c steps
    (record :: records, c)

theorem run_cons (cfg : Config) (c : Console σ) (step : Step) (steps : List Step) :
    run cfg c (step :: steps)
      =
    ((c.observe (step.act cfg)).1 :: (run cfg (c.observe (step.act cfg)).2 steps).1,
      (run cfg (c.observe (step.act cfg)).2 steps).2) := rfl

end Session

end IntConsole
