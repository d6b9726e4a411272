import IntConsole.Log.Directive

/-!
This module contains the filters that decide which entries of a log are shown. A filter is written
as a list of directives with commas in between.
-/

namespace IntConsole

namespace Log

structure Filter where
  directives : List Directive

namespace Filter

def read? (s : String) : Option Filter :=
  match (s.splitOn ",").filter (fun part => !part.isEmpty) with
  | [] => some ⟨[{ level := some .error }]⟩
  | parts => (parts.mapM Directive.read?).map Filter.mk

def standard (verbose : Bool) : Filter where
  directives := [{ target := "crux_rt", level := some (if verbose then .debug else .info) }]

def directiveFor? (f : Filter) (e : Entry) : Option Directive :=
  f.directives.foldl
    (fun best d =>
      if d.concerns e && best.all (·.givesWay d) then some d else best)
    none

def shows (f : Filter) (e : Entry) : Bool :=
  match f.directiveFor? e with
  | some { level := some level, .. } => e.level.verbosity ≤ level.verbosity
  | _ => false

end Filter

end Log

end IntConsole
