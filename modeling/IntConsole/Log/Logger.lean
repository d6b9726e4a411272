import IntConsole.Log.Filter

/-!
This module contains the logger, which writes the entries of a log as lines of text.
-/

namespace IntConsole

namespace Log

structure Logger where
  filter : Filter
  showTargets : Bool

namespace Logger

def ofSetting (setting : Option String) (verbose : Bool) : Logger where
  filter := (setting.bind Filter.read?).getD (.standard verbose)
  showTargets := verbose

def install (installed : Option Logger) (l : Logger) : Bool × Logger :=
  match installed with
  | some other => (false, other)
  | none => (true, l)

def line (l : Logger) (e : Entry) : String :=
  let padding := String.ofList (List.replicate (5 - e.level.name.length) ' ')
  let target := if l.showTargets then e.target ++ ": " else ""
  let fields := String.join (e.fields.map fun (key, value) => " " ++ key ++ "=" ++ value)
  padding ++ e.level.name ++ " " ++ target ++ e.message ++ fields ++ "\n"

def render (l : Logger) (entries : List Entry) : String :=
  String.join ((entries.filter l.filter.shows).map l.line)

end Logger

end Log

end IntConsole
