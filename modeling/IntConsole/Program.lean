import IntConsole.CommandLine.Help
import IntConsole.CommandLine.Parse
import IntConsole.Log.Logger
import IntConsole.Script.Run

/-!
This module contains the program as a whole: from the words of its command line, the setting of its
log and a console to an exit status, a text for the error stream and the console afterwards.
-/

namespace IntConsole

namespace Program

structure Report (σ : Type := Output) where
  status : Nat
  stderr : String
  console : Console σ

variable {σ : Type} [Sink σ]

def announcement (s : CommandLine.Settings) (calls : List Script.Call) : Log.Entry :=
  if s.abi then .runningExported calls.length else .running calls.length s.config

def route (s : CommandLine.Settings) : Script.Route σ :=
  if s.abi then .exported else .direct s.config

def failureText (e : Script.Failure) : String :=
  let causes := match e.cause? with
    | some cause => "\n\nCaused by:\n    " ++ cause
    | none => ""
  "Error: " ++ e.message ++ causes ++ "\n"

def runScript (s : CommandLine.Settings) (logger : Log.Logger) (c : Console σ) : Report σ :=
  match Script.parse s.calls with
  | .error e => ⟨1, failureText e, c⟩
  | .ok calls =>
    let outcome := Script.run (route s) c calls
    let logged := logger.render (announcement s calls :: outcome.log)
    match outcome.failure with
    | none => ⟨0, logged, outcome.console⟩
    | some e => ⟨1, logged ++ failureText e, outcome.console⟩

def print (c : Console σ) (text : String) : Report σ :=
  ⟨0, "", { c with output := (Sink.writeAll c.output (Text.bytes text)).2 }⟩

def run (words : List String) (logSetting : Option String) (c : Console σ) : Report σ :=
  match CommandLine.parse words with
  | .error (.refused r) => ⟨2, r.message, c⟩
  | .error (.help true) => print c CommandLine.longHelpText
  | .error (.help false) => print c CommandLine.shortHelpText
  | .error .version => print c CommandLine.versionText
  | .ok settings => runScript settings (.ofSetting logSetting settings.verbose) c

def reader? (words : List String) : Option (CommandLine.Settings × List Script.Call) :=
  match CommandLine.parse words with
  | .error _ => none
  | .ok settings =>
    match Script.parse settings.calls with
    | .error _ => none
    | .ok calls =>
      if calls.any fun call => call.builtin = .readInt then some (settings, calls) else none

def readsInput (words : List String) : Bool :=
  (reader? words).isSome

end Program

end IntConsole
