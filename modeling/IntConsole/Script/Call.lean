import IntConsole.CallFailure
import IntConsole.Builtin
import IntConsole.Numeral.Bounded

/-!
This module contains the calls of a script. A call is written as the name of a builtin, for a
builtin with a parameter with an equals sign and a decimal value behind it or not.
-/

namespace IntConsole

namespace Script

inductive Failure where
  | badValue (text : String) (defect : Numeral.Defect)
  | takesNoValue (b : Builtin)
  | nothingRead (b : Builtin)
  | call (e : CallFailure)
  deriving DecidableEq

namespace Failure

def message : Failure → String
  | badValue text _ => "bad value in `" ++ text ++ "`"
  | takesNoValue b => "`" ++ b.symbol ++ "` takes no value"
  | nothingRead b => "`" ++ b.symbol ++ "` has no value and nothing was read yet"
  | call e => e.message

def cause? : Failure → Option String
  | badValue _ defect => some defect.message
  | call e => e.cause?
  | _ => none

end Failure

/--
One call of a script. Without a value of its own, a builtin with a parameter gets the value that
was read last.
-/
structure Call where
  builtin : Builtin
  value : Option Int64 := none
  deriving DecidableEq

namespace Call

def splitValue (s : String) : String × Option String :=
  let name := String.ofList (s.toList.takeWhile (· != '='))
  match s.toList.dropWhile (· != '=') with
  | [] => (name, none)
  | _ :: value => (name, some (String.ofList value))

/--
Read a call. The value is read before the name is looked up, and whether the builtin takes a value
comes last.
-/
def parse (s : String) : Except Failure Call :=
  match splitValue s with
  | (name, none) =>
    match Builtin.ofSymbol? name with
    | some b => .ok ⟨b, none⟩
    | none => .error (.call (.unknownBuiltin name))
  | (name, some text) =>
    match Numeral.readBounded (Text.bytes text) with
    | .error defect => .error (.badValue s defect)
    | .ok v =>
      match Builtin.ofSymbol? name with
      | none => .error (.call (.unknownBuiltin name))
      | some b => if b.params.isEmpty then .error (.takesNoValue b) else .ok ⟨b, some v⟩

def render (c : Call) : String :=
  match c.value with
  | none => c.builtin.symbol
  | some v => c.builtin.symbol ++ "=" ++ Decimal.text v.toInt

def arguments? (c : Call) (lastRead : Option Int64) : Option (List Int64) :=
  if c.builtin.params.isEmpty then
    some []
  else
    (c.value <|> lastRead).map fun v => [v]

end Call

def parse : List String → Except Failure (List Call)
  | [] => .ok []
  | text :: texts =>
    match Call.parse text with
    | .error e => .error e
    | .ok call =>
      match parse texts with
      | .error e => .error e
      | .ok calls => .ok (call :: calls)

end Script

end IntConsole
