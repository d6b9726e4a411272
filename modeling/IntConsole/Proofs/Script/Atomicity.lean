import IntConsole.Proofs.Program

/-!
This module contains what it comes to that scripts are read as a whole before they are run. The main
statement is that a script with a call that cannot be read has no effect, and that all others are
run as they are written.
-/

namespace IntConsole

namespace Script

def Call.Readable (text : String) : Prop :=
  ∃ call, parse text = .ok call

/--
The text `bad` is the first one that cannot be read, behind the texts `front`, and `e` tells why.
Whatever stands behind it does not matter.
-/
structure FirstBad (texts front : List String) (bad : String) (e : Failure) : Prop where
  isPrefix : front ++ [bad] <+: texts
  readable : ∀ text ∈ front, Call.Readable text
  parse_eq : Call.parse bad = .error e

theorem parse_cons_of_ok {text : String} {call : Call} (h : Call.parse text = .ok call)
    (texts : List String) : parse (text :: texts) = (parse texts).map (call :: ·) := by
  rw [parse, h]
  dsimp only
  cases parse texts <;> rfl

theorem parse_cons_of_error {text : String} {e : Failure} (h : Call.parse text = .error e)
    (texts : List String) : parse (text :: texts) = .error e := by
  rw [parse, h]

theorem parse_append_of_error {front : List String}
    (hfront : ∀ text ∈ front, Call.Readable text) {bad : String} {e : Failure}
    (h : Call.parse bad = .error e) (rest : List String) :
    parse (front ++ bad :: rest) = .error e := by
  induction front with
  | nil => exact parse_cons_of_error h rest
  | cons text front ih =>
    obtain ⟨call, hcall⟩ := hfront text List.mem_cons_self
    rw [List.cons_append, parse_cons_of_ok hcall,
      ih fun t ht => hfront t (List.mem_cons_of_mem text ht)]
    rfl

theorem parse_of_readable {texts : List String} (h : ∀ text ∈ texts, Call.Readable text) :
    ∃ calls, parse texts = .ok calls ∧ texts.map Call.parse = calls.map .ok := by
  induction texts with
  | nil => exact ⟨[], rfl, rfl⟩
  | cons text texts ih =>
    obtain ⟨call, hcall⟩ := h text List.mem_cons_self
    obtain ⟨calls, hparse, hcalls⟩ := ih fun t ht => h t (List.mem_cons_of_mem text ht)
    refine ⟨call :: calls, ?_, ?_⟩
    . rw [parse_cons_of_ok hcall, hparse]
      rfl
    . rw [List.map_cons, List.map_cons, hcall, hcalls]

namespace FirstBad

variable {texts front : List String} {bad : String} {e : Failure}

theorem parse_eq_error (h : FirstBad texts front bad e) : parse texts = .error e := by
  obtain ⟨rest, rfl⟩ := h.isPrefix
  rw [List.append_assoc]
  exact parse_append_of_error h.readable h.parse_eq rest

theorem cons {text : String} (htext : Call.Readable text) (h : FirstBad texts front bad e) :
    FirstBad (text :: texts) (text :: front) bad e where
  isPrefix := List.cons_prefix_cons.2 ⟨rfl, h.isPrefix⟩
  readable := by
    intro t ht
    rcases List.mem_cons.1 ht with rfl | ht
    . exact htext
    . exact h.readable t ht
  parse_eq := h.parse_eq

end FirstBad

theorem exists_firstBad {texts : List String} (h : ∃ text ∈ texts, ¬Call.Readable text) :
    ∃ front bad e, FirstBad texts front bad e := by
  induction texts with
  | nil =>
    obtain ⟨text, htext, -⟩ := h
    cases htext
  | cons text texts ih =>
    cases hparse : Call.parse text with
    | error e =>
      exact ⟨[], text, e, ⟨[text].prefix_append texts, by simp, hparse⟩⟩
    | ok call =>
      obtain ⟨t, ht, hbad⟩ := h
      have hne : t ≠ text := by
        rintro rfl
        exact hbad ⟨call, hparse⟩
      obtain ⟨front, bad, e, hfirst⟩ := ih ⟨t, (List.mem_cons.1 ht).resolve_left hne, hbad⟩
      exact ⟨text :: front, bad, e, hfirst.cons ⟨call, hparse⟩⟩

end Script

namespace Program

variable {σ : Type} [Sink σ]

def Report.ofOutcome (s : CommandLine.Settings) (calls : List Script.Call) (logger : Log.Logger)
    (outcome : Script.Outcome σ) : Report σ where
  status := if outcome.failure.isSome then 1 else 0
  stderr :=
    logger.render (announcement s calls :: outcome.log) ++ outcome.failure.elim "" failureText
  console := outcome.console

/--
A script that is refused for the failure `e`: it has no invocations, the program reports the failure
without asking for its input, and every console is left as it is.
-/
structure Refused (texts : List String) (e : Script.Failure) : Prop where
  execute_eq : ∀ (route : Script.Route σ) (c : Console σ),
    Script.execute route c texts = ⟨[], some e, c⟩
  runScript_eq : ∀ s : CommandLine.Settings, s.calls = texts →
    ∀ (logger : Log.Logger) (c : Console σ), runScript s logger c = ⟨1, failureText e, c⟩
  readsInput_eq : ∀ words s, CommandLine.parse words = .ok s → s.calls = texts →
    readsInput words = false
  run_eq : ∀ words s, CommandLine.parse words = .ok s → s.calls = texts →
    ∀ (logSetting : Option String) (c : Console σ),
      run words logSetting c = ⟨1, failureText e, c⟩

structure Runs (texts : List String) (calls : List Script.Call) : Prop where
  execute_eq : ∀ (route : Script.Route σ) (c : Console σ),
    Script.execute route c texts = Script.run route c calls
  runScript_eq : ∀ s : CommandLine.Settings, s.calls = texts →
    ∀ (logger : Log.Logger) (c : Console σ),
      runScript s logger c = .ofOutcome s calls logger (Script.run (route s) c calls)

theorem refused_of_error {texts : List String} {e : Script.Failure}
    (h : Script.parse texts = .error e) : Refused (σ := σ) texts e where
  execute_eq route c := by rw [Script.execute, h]
  runScript_eq s hs logger c := by rw [runScript, hs, h]
  readsInput_eq words s hwords hs := by
    rw [readsInput, reader?, hwords]
    dsimp only
    rw [hs, h]
    rfl
  run_eq words s hwords hs logSetting c := by rw [run_of_parse_eq_ok hwords, runScript, hs, h]

theorem runs_of_ok {texts : List String} {calls : List Script.Call}
    (h : Script.parse texts = .ok calls) : Runs (σ := σ) texts calls where
  execute_eq route c := by rw [Script.execute, h]
  runScript_eq s hs logger c := by
    rw [runScript, hs, h, Report.ofOutcome]
    dsimp only
    cases (Script.run (route s) c calls).failure with
    | none => simp
    | some e => rfl

/--
A script is read as a whole before it is run. When some call of it cannot be read, it is refused for
the first such call, whatever stands behind it. Else what is run are the calls that its texts read
as, one by one and in order.
-/
theorem bad_script_without_effect (texts : List String) :
    ((∃ text ∈ texts, ¬Script.Call.Readable text) →
      ∃ front bad e, Script.FirstBad texts front bad e)
      ∧ (∀ front bad e, Script.FirstBad texts front bad e → Refused (σ := σ) texts e)
      ∧ ((∀ text ∈ texts, Script.Call.Readable text) →
        ∃ calls, texts.map Script.Call.parse = calls.map .ok ∧ Runs (σ := σ) texts calls) := by
  refine ⟨Script.exists_firstBad, ?_, ?_⟩
  . intro front bad e hfirst
    exact refused_of_error hfirst.parse_eq_error
  . intro hreadable
    obtain ⟨calls, hparse, hcalls⟩ := Script.parse_of_readable hreadable
    exact ⟨calls, hcalls, runs_of_ok hparse⟩

/--
The typing error in the third call comes before the unknown name in the last one.
-/
theorem bad_script_without_effect_late :
    let texts := ["readInt", "printInt=+7", "printInt=7x", "nope"]
    let e := Script.Failure.badValue "printInt=7x" .invalidDigit
    let c : Console := { input := .ofBytes [52, 50] }
    (∃ text ∈ texts, ¬Script.Call.Readable text)
      ∧ Script.FirstBad texts ["readInt", "printInt=+7"] "printInt=7x" e
      ∧ runScript { strict := true, calls := texts } (.ofSetting none true) c
          = ⟨1, failureText e, c⟩ := by
  intro texts e c
  obtain ⟨-, hrefused, -⟩ := bad_script_without_effect (σ := Output) texts
  have hbad : Script.Call.parse "printInt=7x" = .error e := rfl
  have hfirst : Script.FirstBad texts ["readInt", "printInt=+7"] "printInt=7x" e := {
    isPrefix := ⟨["nope"], rfl⟩
    readable := by
      intro text htext
      simp only [List.mem_cons, List.not_mem_nil, or_false] at htext
      rcases htext with rfl | rfl
      . exact ⟨⟨.readInt, none⟩, rfl⟩
      . exact ⟨⟨.printInt, some 7⟩, rfl⟩
    parse_eq := hbad
  }
  refine ⟨⟨"printInt=7x", by simp [texts], ?_⟩, hfirst, ?_⟩
  . rintro ⟨call, hcall⟩
    rw [hbad] at hcall
    cases hcall
  . exact (hrefused _ _ _ hfirst).runScript_eq _ rfl _ c

end Program

end IntConsole
