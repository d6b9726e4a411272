import IntConsole.Console

/-!
This module contains the entry points that linked code calls. Each of them works on the streams of
the process with the default settings, and none of them can report a failure.
-/

namespace IntConsole

namespace Exported

variable {σ : Type} [Sink σ]

def config : Config := {}

def table : List (String × Builtin) :=
  Builtin.all.map fun b => (b.symbol, b)

def lookup? (name : String) : Option Builtin :=
  (table.find? fun entry => entry.1 == name).map Prod.snd

def printInt (c : Console σ) (v : Int64) : Console σ :=
  c.printInt config v

def printBool (c : Console σ) (v : Int64) : Console σ :=
  c.printBool config v

def println (c : Console σ) : Console σ :=
  c.println config

def readInt (c : Console σ) : Int64 × Console σ :=
  match c.readIntWithPolicy config with
  | (.ok v, c) => (v, c)
  | (.error _, c) => (0, c)

/--
Call an entry point. Nobody counts the arguments here: those that the builtin does not take are
passed over, and only where one that it takes is missing can the call not be made.
-/
def call (c : Console σ) (b : Builtin) (args : List Int64) :
    Except CallFailure (Option Int64) × Console σ :=
  match b, args with
  | .readInt, _ =>
    let (v, c) := readInt c
    (.ok (some v), c)
  | .printBool, v :: _ => (.ok none, printBool c v)
  | .printInt, v :: _ => (.ok none, printInt c v)
  | .println, _ => (.ok none, println c)
  | _, [] => (.error (.arity b.symbol b.params.length 0), c)

end Exported

end IntConsole
