import IntConsole.Proofs.Session.Effect

/-!
This module contains the two sides of a console. What a step answers comes from the input alone, and
what it prints goes to the output alone. The main statement is that neither side of a session shows
anything of the other one.
-/

namespace IntConsole

variable {σ : Type}

structure Console.SameStreams (c d : Console σ) : Prop where
  input_eq : c.input = d.input
  output_eq : c.output = d.output

theorem Console.SameStreams.refl (c : Console σ) : c.SameStreams c :=
  ⟨rfl, rfl⟩

theorem Log.Entry.filter_of_level {level : Level} {entries : List Entry}
    (h : ∀ entry ∈ entries, entry.level = level) (p : Level → Bool) :
    entries.filter (fun entry => p entry.level) = if p level then entries else [] := by
  cases hp : p level with
  | true =>
    rw [if_pos rfl, List.filter_eq_self]
    intro entry hentry
    rw [h entry hentry, hp]
  | false =>
    rw [if_neg Bool.noConfusion, List.filter_eq_nil_iff]
    intro entry hentry
    rw [h entry hentry, hp]
    exact Bool.noConfusion

namespace Effect

def answer (s : Input) : Effect → Except CallFailure (Option Int64) × Input
  | reject e => (.error e, s)
  | write _ _ => (.ok none, s)
  | read _ policy => (((policy.resolve s.readInt.1).1.map some).mapError .read, s.readInt.2)

def flushing (cfg : Config) : Effect → Bool
  | reject _ => false
  | write _ _ => cfg.flush
  | read _ _ => true

def print [Sink σ] (cfg : Config) (w : σ) : Effect → Option WriteFailure × σ
  | reject _ => (none, w)
  | e => Sink.emit w (e.pieces cfg) (e.flushing cfg)

def entries : Effect → List Log.Entry
  | reject _ => []
  | write entries _ => entries
  | read entries _ => entries

def warnings (s : Input) : Effect → List Log.Entry
  | read _ policy => (policy.resolve s.readInt.1).2
  | _ => []

theorem level_of_mem_warnings {s : Input} {e : Effect} {entry : Log.Entry}
    (h : entry ∈ e.warnings s) : entry.level = .warn := by
  cases e with
  | reject e => cases h
  | write entries pieces => cases h
  | read entries policy =>
    rw [warnings] at h
    cases hread : s.readInt.1 with
    | ok v =>
      rw [hread] at h
      cases h
    | error e =>
      rw [hread] at h
      cases policy with
      | propagate => cases h
      | fallback v =>
        rw [List.mem_singleton.1 h]
        rfl

theorem ofCall_cases (b : Builtin) (args : List Int64) :
    (∃ e, ∀ cfg, ofCall cfg b args = reject e)
      ∨ (∃ pieces, ∀ cfg, ofCall cfg b args = write [.called b args] pieces)
      ∨ ∀ cfg, ofCall cfg b args = read [.called b args] cfg.onReadFailure := by
  cases b with
  | readInt =>
    cases args with
    | nil => exact .inr (.inr fun _ => rfl)
    | cons => exact .inl ⟨_, fun _ => rfl⟩
  | printBool =>
    rcases args with _ | ⟨v, _ | ⟨w, rest⟩⟩
    . exact .inl ⟨_, fun _ => rfl⟩
    . exact .inr (.inl ⟨_, fun _ => rfl⟩)
    . exact .inl ⟨_, fun _ => rfl⟩
  | printInt =>
    rcases args with _ | ⟨v, _ | ⟨w, rest⟩⟩
    . exact .inl ⟨_, fun _ => rfl⟩
    . exact .inr (.inl ⟨_, fun _ => rfl⟩)
    . exact .inl ⟨_, fun _ => rfl⟩
  | println =>
    cases args with
    | nil => exact .inr (.inl ⟨_, fun _ => rfl⟩)
    | cons => exact .inl ⟨_, fun _ => rfl⟩

theorem answer_ofCall_of_ne (cfg : Config) (s : Input) {b : Builtin} {args : List Int64}
    (hb : b ≠ .readInt) (h : args.length = b.params.length) :
    ((ofCall cfg b args).answer s).1 = .ok none := by
  cases b with
  | readInt => exact absurd rfl hb
  | printBool =>
    obtain ⟨v, rfl⟩ := List.length_eq_one_iff.1 h
    rfl
  | printInt =>
    obtain ⟨v, rfl⟩ := List.length_eq_one_iff.1 h
    rfl
  | println =>
    obtain rfl := List.eq_nil_of_length_eq_zero h
    rfl

theorem level_of_mem_entries_ofCall {cfg : Config} {b : Builtin} {args : List Int64}
    {entry : Log.Entry} (h : entry ∈ (ofCall cfg b args).entries) : entry.level = .trace := by
  rcases ofCall_cases b args with ⟨e, hcall⟩ | ⟨pieces, hcall⟩ | hcall
  . rw [hcall] at h
    cases h
  . rw [hcall] at h
    rw [List.mem_singleton.1 h]
    rfl
  . rw [hcall] at h
    rw [List.mem_singleton.1 h]
    rfl

variable [Sink σ]

def logged (cfg : Config) (c : Console σ) (e : Effect) : List Log.Entry :=
  e.entries ++ (e.print cfg c.output).1.toList.map .writeFailed ++ e.warnings c.input

theorem filter_logged (cfg : Config) (c : Console σ) {e : Effect}
    (hentries : ∀ entry ∈ e.entries, entry.level = .trace) (p : Log.Level → Bool) :
    (e.logged cfg c).filter (fun entry => p entry.level)
      =
    (if p .trace then e.entries else [])
      ++ (if p .debug then (e.print cfg c.output).1.toList.map .writeFailed else [])
      ++ if p .warn then e.warnings c.input else [] := by
  have hfailures : ∀ entry ∈ (e.print cfg c.output).1.toList.map Log.Entry.writeFailed,
      entry.level = .debug := by
    intro entry hentry
    obtain ⟨failure, -, rfl⟩ := List.mem_map.1 hentry
    rfl
  rw [logged, List.filter_append, List.filter_append, Log.Entry.filter_of_level hentries,
    Log.Entry.filter_of_level hfailures,
    Log.Entry.filter_of_level fun entry hentry => level_of_mem_warnings hentry]

theorem perform_eq (cfg : Config) (c : Console σ) (e : Effect) :
    e.perform cfg c
      =
    ((e.answer c.input).1, {
      input := (e.answer c.input).2
      output := (e.print cfg c.output).2
      log := c.log ++ e.logged cfg c
    }) := by
  cases e with
  | reject e => simp [perform, answer, print, logged, entries, warnings]
  | write es pieces =>
    simp [perform, answer, print, logged, entries, warnings, Effect.pieces, flushing, Console.emit,
      Console.logAll]
  | read es policy =>
    rw [perform, Prod.ext_iff, Step.fst_ofRead, Step.snd_ofRead]
    simp [answer, print, logged, entries, warnings, Effect.pieces, flushing,
      Console.readIntWithPolicy, Console.readInt, Console.emit, Console.logAll]

def record (cfg : Config) (c : Console σ) (e : Effect) : Record where
  result := (e.answer c.input).1
  out := (Sink.accepted (e.print cfg c.output).2).drop (Sink.accepted c.output).length
  flushes := Sink.flushes (e.print cfg c.output).2 - Sink.flushes c.output
  position := (e.answer c.input).2.position
  log := e.logged cfg c

def after (cfg : Config) (c : Console σ) (e : Effect) : Console σ where
  input := (e.answer c.input).2
  output := (e.print cfg c.output).2
  log := e.logged cfg c

theorem observe_perform (cfg : Config) (c : Console σ) (e : Effect) :
    c.observe (fun c => e.perform cfg c) = (e.record cfg c, e.after cfg c) := by
  unfold Console.observe
  simp only [perform_eq]
  rfl

section

variable {c d : Console σ} (h : c.SameStreams d)
include h

theorem record_congr (cfg : Config) (e : Effect) : e.record cfg c = e.record cfg d := by
  rw [record, record, logged, logged, h.input_eq, h.output_eq]

theorem sameStreams_after (cfg : Config) (e : Effect) :
    (e.after cfg c).SameStreams (e.after cfg d) := by
  constructor
  . rw [after, after, h.input_eq]
  . rw [after, after, h.output_eq]

end

end Effect

theorem Step.level_of_mem_entries {cfg : Config} {step : Step} {entry : Log.Entry}
    (h : entry ∈ (step.effect cfg).entries) : entry.level = .trace := by
  cases step with
  | call b args => exact Effect.level_of_mem_entries_ofCall h
  | callByName name args =>
    rw [effect] at h
    cases hb : Builtin.ofSymbol? name with
    | some b =>
      rw [hb] at h
      exact Effect.level_of_mem_entries_ofCall h
    | none =>
      rw [hb] at h
      cases h
  | _ => cases h

theorem Console.observe_act [Sink σ] (cfg : Config) (c : Console σ) (step : Step) :
    c.observe (step.act cfg) = ((step.effect cfg).record cfg c, (step.effect cfg).after cfg c) := by
  have hact : (fun c => step.act cfg c) = fun c : Console σ => (step.effect cfg).perform cfg c := by
    funext c
    exact step.act_eq_perform cfg c
  rw [hact, Effect.observe_perform]

theorem Session.run_cons_eq [Sink σ] (cfg : Config) (c : Console σ) (step : Step)
    (steps : List Step) :
    run cfg c (step :: steps)
      =
    ((step.effect cfg).record cfg c :: (run cfg ((step.effect cfg).after cfg c) steps).1,
      (run cfg ((step.effect cfg).after cfg c) steps).2) := by
  rw [run_cons, Console.observe_act]

theorem Effect.ofCall_congr {cfg cfg' : Config} (h : cfg.onReadFailure = cfg'.onReadFailure)
    (b : Builtin) (args : List Int64) : ofCall cfg b args = ofCall cfg' b args := by
  unfold ofCall
  rw [h]

theorem Step.effect_congr {cfg cfg' : Config} (h : cfg.onReadFailure = cfg'.onReadFailure)
    (step : Step) : step.effect cfg = step.effect cfg' := by
  unfold effect
  simp only [Effect.ofCall_congr h, h]

theorem Session.getElem?_run [Sink σ] (cfg : Config) (c : Console σ) {steps : List Step} {k : Nat}
    {step : Step} (h : steps[k]? = some step) :
    (run cfg c steps).1[k]? = some ((step.effect cfg).record cfg (run cfg c (steps.take k)).2)
      ∧ (run cfg c (steps.take (k + 1))).2
          = (step.effect cfg).after cfg (run cfg c (steps.take k)).2 := by
  induction steps generalizing c k with
  | nil => cases h
  | cons first steps ih =>
    cases k with
    | zero =>
      cases h
      rw [run_cons_eq, List.take_succ_cons, run_cons_eq]
      exact ⟨rfl, rfl⟩
    | succ k =>
      rw [List.getElem?_cons_succ] at h
      rw [List.take_succ_cons, List.take_succ_cons, run_cons_eq, run_cons_eq, run_cons_eq]
      exact ih _ h

section

variable [Sink σ] {cfg cfg' : Config} (hprompt : cfg.prompt = cfg'.prompt)
  (hflush : cfg.flush = cfg'.flush)
include hprompt hflush

theorem Effect.print_ofCall_congr (w : σ) (b : Builtin) (args : List Int64) :
    (ofCall cfg b args).print cfg w = (ofCall cfg' b args).print cfg' w := by
  rcases ofCall_cases b args with ⟨e, hcall⟩ | ⟨pieces, hcall⟩ | hcall
  . rw [hcall, hcall]
    rfl
  . rw [hcall, hcall]
    change Sink.emit w pieces cfg.flush = Sink.emit w pieces cfg'.flush
    rw [hflush]
  . rw [hcall, hcall]
    change Sink.emit w [Text.bytes cfg.prompt] true = Sink.emit w [Text.bytes cfg'.prompt] true
    rw [hprompt]

theorem Step.print_congr (w : σ) (step : Step) :
    (step.effect cfg).print cfg w = (step.effect cfg').print cfg' w := by
  cases step with
  | call b args => exact Effect.print_ofCall_congr hprompt hflush w b args
  | callByName name args =>
    rw [effect, effect]
    cases Builtin.ofSymbol? name with
    | some b => exact Effect.print_ofCall_congr hprompt hflush w b args
    | none => rfl
  | _ => simp [effect, Effect.print, Effect.pieces, Effect.flushing, hprompt, hflush]

end

namespace Session

variable {τ : Type} [Sink σ] [Sink τ]

theorem answers_congr (cfg cfg' : Config) (hpolicy : cfg.onReadFailure = cfg'.onReadFailure)
    {c : Console σ} {d : Console τ} (h : c.input = d.input) (steps : List Step) :
    (run cfg c steps).1.map (fun r => (r.result, r.position))
        = (run cfg' d steps).1.map (fun r => (r.result, r.position))
      ∧ (run cfg c steps).2.input = (run cfg' d steps).2.input := by
  -- The inputs stay the same from step to step, whatever becomes of the outputs.
  induction steps generalizing c d with
  | nil => exact ⟨rfl, h⟩
  | cons step steps ih =>
    have heffect : step.effect cfg = step.effect cfg' := Step.effect_congr hpolicy step
    have hafter :
        ((step.effect cfg).after cfg c).input = ((step.effect cfg').after cfg' d).input := by
      rw [Effect.after, Effect.after, h, heffect]
    obtain ⟨hanswers, hinput⟩ := ih hafter
    rw [run_cons_eq, run_cons_eq]
    refine ⟨?_, hinput⟩
    rw [List.map_cons, List.map_cons, hanswers, Effect.record, Effect.record, h, heffect]

theorem prints_congr (cfg cfg' : Config) (hprompt : cfg.prompt = cfg'.prompt)
    (hflush : cfg.flush = cfg'.flush) {c d : Console σ} (h : c.output = d.output)
    (steps : List Step) :
    (run cfg c steps).1.map (fun r => (r.out, r.flushes))
        = (run cfg' d steps).1.map (fun r => (r.out, r.flushes))
      ∧ (run cfg c steps).2.output = (run cfg' d steps).2.output := by
  induction steps generalizing c d with
  | nil => exact ⟨rfl, h⟩
  | cons step steps ih =>
    have hprint := Step.print_congr hprompt hflush d.output step
    have hafter :
        ((step.effect cfg).after cfg c).output = ((step.effect cfg').after cfg' d).output := by
      rw [Effect.after, Effect.after, h, hprint]
    obtain ⟨hprints, houtput⟩ := ih hafter
    rw [run_cons_eq, run_cons_eq]
    refine ⟨?_, houtput⟩
    rw [List.map_cons, List.map_cons, hprints, Effect.record, Effect.record, h, hprint]

/--
The two streams of a console are kept apart. On the same input and under the same policy, what steps
come to and where they leave the input does not depend on the stream that is written on, on the
prompt or on the flushing. On the same output, with the same prompt and flushing, what is accepted
and flushed does not depend on the input or on the policy.
-/
theorem streams_separate (steps : List Step) :
    (∀ (policy : ReadPolicy) (s : Input) (prompt prompt' : String) (flush flush' : Bool) (w : σ)
        (w' : τ) (log log' : List Log.Entry),
      (run ⟨prompt, flush, policy⟩ ⟨s, w, log⟩ steps).1.map (fun r => (r.result, r.position))
          = (run ⟨prompt', flush', policy⟩ ⟨s, w', log'⟩ steps).1.map
              (fun r => (r.result, r.position))
        ∧ ∀ k, (run ⟨prompt, flush, policy⟩ ⟨s, w, log⟩ (steps.take k)).2.input
            = (run ⟨prompt', flush', policy⟩ ⟨s, w', log'⟩ (steps.take k)).2.input)
      ∧ ∀ (prompt : String) (flush : Bool) (w : σ) (policy policy' : ReadPolicy) (s s' : Input)
          (log log' : List Log.Entry),
        (run ⟨prompt, flush, policy⟩ ⟨s, w, log⟩ steps).1.map (fun r => (r.out, r.flushes))
            = (run ⟨prompt, flush, policy'⟩ ⟨s', w, log'⟩ steps).1.map
                (fun r => (r.out, r.flushes))
          ∧ ∀ k, (run ⟨prompt, flush, policy⟩ ⟨s, w, log⟩ (steps.take k)).2.output
              = (run ⟨prompt, flush, policy'⟩ ⟨s', w, log'⟩ (steps.take k)).2.output := by
  constructor
  . intro policy s prompt prompt' flush flush' w w' log log'
    have hanswers := answers_congr ⟨prompt, flush, policy⟩ ⟨prompt', flush', policy⟩ rfl
      (c := ⟨s, w, log⟩) (d := ⟨s, w', log'⟩) rfl
    exact ⟨(hanswers steps).1, fun k => (hanswers (steps.take k)).2⟩
  . intro prompt flush w policy policy' s s' log log'
    have hprints := prints_congr ⟨prompt, flush, policy⟩ ⟨prompt, flush, policy'⟩ rfl rfl
      (c := ⟨s, w, log⟩) (d := ⟨s', w, log'⟩) rfl
    exact ⟨(hprints steps).1, fun k => (hprints (steps.take k)).2⟩

end Session

end IntConsole
