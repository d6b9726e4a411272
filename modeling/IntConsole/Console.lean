import IntConsole.CallFailure
import IntConsole.Reading.Integer
import IntConsole.Reading.Policy
import IntConsole.Stream.Output

/-!
This module contains the console: an input, an output and a log, together with what the builtins do
on them. Writing is best effort, so that a failure to write is logged and only a read can fail.
-/

namespace IntConsole

structure Console (σ : Type := Output) where
  input : Input := {}
  output : σ := by exact {}
  log : List Log.Entry := []

namespace Console

variable {σ : Type}

def logAll (c : Console σ) (entries : List Log.Entry) : Console σ :=
  { c with log := c.log ++ entries }

variable [Sink σ]

def emit (c : Console σ) (pieces : List (List UInt8)) (flush : Bool) : Console σ :=
  let (failure, output) := Sink.emit c.output pieces flush
  { c with output }.logAll (failure.toList.map .writeFailed)

def boolText (v : Int64) : String :=
  if v = 0 then "false" else "true"

def printInt (c : Console σ) (cfg : Config) (v : Int64) : Console σ :=
  c.emit (Decimal.pieces v.toInt) cfg.flush

def printBool (c : Console σ) (cfg : Config) (v : Int64) : Console σ :=
  c.emit [Text.bytes (boolText v)] cfg.flush

def println (c : Console σ) (cfg : Config) : Console σ :=
  c.emit [Text.bytes "\n"] cfg.flush

def readInt (c : Console σ) (cfg : Config) : Except ReadFailure Int64 × Console σ :=
  let c := c.emit [Text.bytes cfg.prompt] true
  let (result, input) := c.input.readInt
  (result, { c with input })

def readIntWithPolicy (c : Console σ) (cfg : Config) : Except ReadFailure Int64 × Console σ :=
  let (result, c) := c.readInt cfg
  let (result, entries) := cfg.onReadFailure.resolve result
  (result, c.logAll entries)

def call (c : Console σ) (cfg : Config) (b : Builtin) (args : List Int64) :
    Except CallFailure (Option Int64) × Console σ :=
  let traced := c.logAll [.called b args]
  match b, args with
  | .readInt, [] =>
    match traced.readIntWithPolicy cfg with
    | (.ok v, c) => (.ok (some v), c)
    | (.error e, c) => (.error (.read e), c)
  | .printBool, [v] => (.ok none, traced.printBool cfg v)
  | .printInt, [v] => (.ok none, traced.printInt cfg v)
  | .println, [] => (.ok none, traced.println cfg)
  | _, _ => (.error (.arity b.symbol b.params.length args.length), c)

def callByName (c : Console σ) (cfg : Config) (name : String) (args : List Int64) :
    Except CallFailure (Option Int64) × Console σ :=
  match Builtin.ofSymbol? name with
  | some b => c.call cfg b args
  | none => (.error (.unknownBuiltin name), c)

theorem boolText_eq_true_iff (v : Int64) : boolText v = "true" ↔ v ≠ 0 := by
  unfold boolText
  split
  . next h => simp [h]
  . next h => simp [h]

theorem boolText_eq_false_iff (v : Int64) : boolText v = "false" ↔ v = 0 := by
  unfold boolText
  split
  . next h => simp [h]
  . next h => simp [h]

end Console

end IntConsole
