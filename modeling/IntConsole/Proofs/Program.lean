import IntConsole.Program
import IntConsole.Proofs.CommandLine.Omission
import IntConsole.Proofs.Script.Agreement

/-!
This module contains what it means for the program as a whole that the entry points agree with a
console. The main statement covers single calls, scripts and command lines.
-/

namespace IntConsole

namespace Program

variable {σ : Type}

/--
Two reports of the same status and with the same streams, whatever has been logged for them.
-/
structure Report.Agrees (r r' : Report σ) : Prop where
  status_eq : r.status = r'.status
  sameStreams : r.console.SameStreams r'.console

variable [Sink σ]

theorem config_eq {s : CommandLine.Settings} (hstrict : s.strict = false)
    (hprompt : s.prompt = none) : s.config = Exported.config := by
  rw [CommandLine.Settings.config, hstrict, hprompt]
  rfl

theorem agrees_runScript {s : CommandLine.Settings} (habi : s.abi = true)
    (hstrict : s.strict = false) (hprompt : s.prompt = none) (logger : Log.Logger)
    (c : Console σ) :
    (runScript s logger c).Agrees (runScript { s with abi := false } logger c) := by
  have hroute : route (σ := σ) s = .exported := by
    rw [route, habi]
    rfl
  have hroute' : route (σ := σ) { s with abi := false } = .direct Exported.config := by
    rw [← config_eq hstrict hprompt]
    rfl
  unfold runScript
  dsimp only
  cases Script.parse s.calls with
  | error e => exact ⟨rfl, .refl c⟩
  | ok calls =>
    have hrun := Script.runFrom_exported (.refl c) none calls
    dsimp only
    rw [hroute, hroute', Script.run, Script.run, hrun.failure_eq]
    cases (Script.runFrom (.direct Exported.config) none c calls).failure with
    | none => exact ⟨rfl, hrun.sameStreams⟩
    | some e => exact ⟨rfl, hrun.sameStreams⟩

theorem run_of_parse_eq_ok {words : List String} {s : CommandLine.Settings}
    (h : CommandLine.parse words = .ok s) (logSetting : Option String) (c : Console σ) :
    run words logSetting c = runScript s (.ofSetting logSetting s.verbose) c := by
  rw [run, h]

/--
The entry points agree with a console with the default settings that lives as long as they are in
use. Calls with the right number of arguments are observed alike but for the entries that only a
console logs in front of a call. Scripts come to the same. A command line with `--abi` that can be
read can also be read without it, and its report agrees.
-/
theorem exported_agrees (c : Console σ) :
    (∀ requests : List (Builtin × List Int64),
        (∀ request ∈ requests, request.2.length = request.1.params.length) →
      let steps := requests.map fun request => Step.call request.1 request.2
      (Script.Route.exported.replay c requests).1
          = (Session.run {} c steps).1.map Record.untraced
        ∧ (Script.Route.exported.replay c requests).2.SameStreams (Session.run {} c steps).2)
      ∧ (∀ calls : List Script.Call,
        (Script.run .exported c calls).Agrees (Script.run (.direct {}) c calls))
      ∧ ∀ (words : List String) (logSetting : Option String) (s : CommandLine.Settings),
          CommandLine.parse words = .ok s → s.abi = true →
        CommandLine.parse (words.erase "--abi") = .ok { s with abi := false }
          ∧ (run words logSetting c).Agrees (run (words.erase "--abi") logSetting c) := by
  refine ⟨?_, ?_, ?_⟩
  . intro requests hargs steps
    have hsession : Session.run {} c steps = (Script.Route.direct {}).replay c requests :=
      (Script.Route.replay_direct {} c requests).symm
    rw [hsession]
    exact Script.Route.replay_exported (.refl c) hargs
  . intro calls
    exact Script.runFrom_exported (.refl c) none calls
  . intro words logSetting s hparse habi
    obtain ⟨herase, hstrict, hprompt⟩ := CommandLine.parse_erase_abi hparse habi
    refine ⟨herase, ?_⟩
    rw [run_of_parse_eq_ok hparse, run_of_parse_eq_ok herase]
    exact agrees_runScript habi hstrict hprompt _ c

/--
The second read meets a letter, such that it comes to zero.
-/
theorem exported_agrees_letters :
    let c : Console := { input := .ofBytes [32, 52, 50, 10, 97, 98, 99] }
    let requests : List (Builtin × List Int64) :=
      [(.readInt, []), (.printBool, [1]), (.readInt, [])]
    let steps := requests.map fun request => Step.call request.1 request.2
    let words := ["--abi", "readInt", "printInt", "readInt", "printBool=1"]
    ((∀ request ∈ requests, request.2.length = request.1.params.length)
        ∧ (Script.Route.exported.replay c requests).1
            = (Session.run {} c steps).1.map Record.untraced
        ∧ (Script.Route.exported.replay c requests).1.map (fun r => (r.result, r.position))
            = [(.ok (some 42), 3), (.ok none, 3), (.ok (some 0), 4)])
      ∧ ∃ s, CommandLine.parse words = .ok s ∧ s.abi = true
        ∧ (run words none c).Agrees (run (words.erase "--abi") none c)
        ∧ (run words none c).console.output.accepted = Text.bytes "int?42int?true" := by
  intro c requests steps words
  obtain ⟨hcalls, -, hwords⟩ := exported_agrees c
  have hargs : ∀ request ∈ requests, request.2.length = request.1.params.length := by decide
  have hparse : CommandLine.parse words = .ok {
      abi := true
      calls := ["readInt", "printInt", "readInt", "printBool=1"]
    } := rfl
  have haccepted : (run words none c).console.output.accepted = Text.bytes "int?42int?true" := by
    decide +kernel
  exact ⟨⟨hargs, (hcalls requests hargs).1, rfl⟩, _, hparse, rfl,
    (hwords words none _ hparse rfl).2, haccepted⟩

end Program

end IntConsole
