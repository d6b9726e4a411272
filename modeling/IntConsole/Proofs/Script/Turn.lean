import IntConsole.Proofs.Reading.Supply
import IntConsole.Proofs.Script.Atomicity
import IntConsole.Script.Turn

/-!
This module contains what the turns of a script come to. The main statement is that a script which
goes on from where a turn has stopped comes to the same as one that has had all of its input from
the beginning, so that nothing which a turn has shown has to be taken back.
-/

namespace IntConsole

variable {σ : Type}

namespace Effect

theorem answer_supply (s : Input) (e : Effect) :
    (e.answer s.mark).2.pending = [] ∨ ∃ t : Input, (e.answer s.mark).2 = t.mark
      ∧ ∀ es, e.answer (s.supply es) = ((e.answer s.mark).1, t.supply es)
        ∧ e.warnings (s.supply es) = e.warnings s.mark := by
  cases e with
  | reject e => exact .inr ⟨s, rfl, fun _ => ⟨rfl, rfl⟩⟩
  | write entries pieces => exact .inr ⟨s, rfl, fun _ => ⟨rfl, rfl⟩⟩
  | read entries policy =>
    rcases s.readInt_supply with hnil | ⟨t, ht, hread⟩
    . exact .inl hnil
    . refine .inr ⟨t, ht, ?_⟩
      intro es
      rw [answer, answer, warnings, warnings, hread es]
      exact ⟨rfl, rfl⟩

variable [Sink σ] (cfg : Config) (c : Console σ)

theorem observed_supply (e : Effect) :
    (e.after cfg c.mark).input.pending = [] ∨ ∃ d : Console σ, e.after cfg c.mark = d.mark
      ∧ ∀ es, e.record cfg (c.supply es) = e.record cfg c.mark
        ∧ e.after cfg (c.supply es) = d.supply es := by
  rcases e.answer_supply c.input with hnil | ⟨t, ht, hsupply⟩
  . exact .inl hnil
  . refine .inr ⟨{ e.after cfg c.mark with input := t }, ?_, ?_⟩
    . exact congrArg (fun input => Console.mk input _ _) ht
    . intro es
      obtain ⟨hanswer, hwarnings⟩ := hsupply es
      have hlogged : e.logged cfg (c.supply es) = e.logged cfg c.mark :=
        congrArg (e.entries ++ (e.print cfg c.output).1.toList.map .writeFailed ++ ·) hwarnings
      have hposition : (e.answer c.input.mark).2.position = t.position := by
        rw [ht]
        rfl
      constructor
      . rw [record, record, hlogged]
        dsimp only [Console.supply, Console.mark]
        rw [hanswer, hposition]
        rfl
      . rw [after, hlogged]
        dsimp only [Console.supply, Console.mark]
        rw [hanswer]
        rfl

theorem log_record_supply {e : Effect} (h : ∀ entry ∈ e.entries, entry.level = .trace)
    (es : List Event) :
    (e.record cfg c.mark).log.filter (fun entry => entry.level ≠ .warn)
      <+: (e.record cfg (c.supply es)).log := by
  have hfilter := filter_logged cfg c.mark h fun level => level ≠ .warn
  change (e.logged cfg c.mark).filter _ <+: e.logged cfg (c.supply es)
  rw [hfilter, logged]
  exact ⟨_, congrArg (· ++ _) (List.append_nil _)⟩

end Effect

namespace Script

theorem Turn.exists_of_prepend_eq_asks {i : Invocation} {t : Turn σ} {wait : Wait σ}
    (h : t.prepend i = .asks wait) :
    ∃ wait', t = .asks wait' ∧ wait = { wait' with made := wait'.made.prepend i } := by
  cases t with
  | ended outcome => cases h
  | asks wait' =>
    cases h
    exact ⟨wait', rfl, rfl⟩

variable [Sink σ]

/--
What a call does does not depend on what arrives later, unless it has asked for it.
-/
structure Route.Patient (route : Route σ) : Prop where
  settles : ∀ (c : Console σ) {b : Builtin} {args : List Int64}, args.length = b.params.length →
    (c.mark.observe fun c => route c b args).2.input.pending = []
      ∨ ∃ d : Console σ, (c.mark.observe fun c => route c b args).2 = d.mark
        ∧ ∀ es, ((c.supply es).observe fun c => route c b args)
          = ((c.mark.observe fun c => route c b args).1, d.supply es)
  out_eq : ∀ (c : Console σ) {b : Builtin} {args : List Int64}, args.length = b.params.length →
    ∀ es, ((c.supply es).observe fun c => route c b args).1.out
      = (c.mark.observe fun c => route c b args).1.out
  log_prefix : ∀ (c : Console σ) {b : Builtin} {args : List Int64},
    args.length = b.params.length → ∀ es,
      (c.mark.observe fun c => route c b args).1.log.filter (fun entry => entry.level ≠ .warn)
        <+: ((c.supply es).observe fun c => route c b args).1.log

theorem Route.patient_of_effect {route : Route σ} (cfg : Config)
    (effect : Builtin → List Int64 → Effect)
    (hroute : ∀ (c : Console σ) {b : Builtin} {args : List Int64},
      args.length = b.params.length → (c.observe fun c => route c b args)
        = ((effect b args).record cfg c, (effect b args).after cfg c))
    (hentries : ∀ b args, ∀ entry ∈ (effect b args).entries, entry.level = .trace) :
    route.Patient where
  settles c b args h := by
    rw [hroute c.mark h]
    rcases (effect b args).observed_supply cfg c with hnil | ⟨d, hd, hsupply⟩
    . exact .inl hnil
    . refine .inr ⟨d, hd, ?_⟩
      intro es
      obtain ⟨hrecord, hafter⟩ := hsupply es
      rw [hroute _ h, hrecord, hafter]
  out_eq c b args h es := by
    rw [hroute _ h, hroute _ h]
    rfl
  log_prefix c b args h es := by
    rw [hroute _ h, hroute _ h]
    exact Effect.log_record_supply cfg c (hentries b args) es

theorem Route.patient_direct (cfg : Config) : (Route.direct (σ := σ) cfg).Patient :=
  patient_of_effect cfg (Effect.ofCall cfg) (fun c b args _ => observe_direct cfg c b args)
    fun _ _ _ => Effect.level_of_mem_entries_ofCall

theorem Route.patient_exported : (Route.exported (σ := σ)).Patient :=
  patient_of_effect Exported.config
    (fun b args => (Effect.ofCall Exported.config b args).silent)
    (fun c b args h => observe_exported_eq c h)
    (by
      intro b args entry hentry
      cases hcall : Effect.ofCall Exported.config b args <;> rw [hcall] at hentry <;> cases hentry)

def Outcome.supply (o : Outcome σ) (es : List Event) : Outcome σ :=
  { o with console := o.console.supply es }

def Outcome.followedBy (o p : Outcome σ) : Outcome σ :=
  { p with invocations := o.invocations ++ p.invocations }

def Turn.resume (route : Route σ) (es : List Event) : Turn σ → Outcome σ
  | ended outcome => outcome.supply es
  | asks wait =>
    wait.made.followedBy (runFrom route wait.lastRead (wait.made.console.supply es) wait.calls)

theorem Turn.resume_prepend (route : Route σ) (es : List Event) (i : Invocation) (t : Turn σ) :
    (t.prepend i).resume route es = (t.resume route es).prepend i := by
  cases t <;> rfl

theorem exists_invocations_eq (route : Route σ) {lastRead : Option Int64} {call : Call}
    {args : List Int64} (h : call.arguments? lastRead = some args) (c : Console σ)
    (calls : List Call) :
    ∃ rest, (runFrom route lastRead c (call :: calls)).invocations
      = ⟨call.builtin, args, (c.observe fun c => route c call.builtin args).1⟩ :: rest := by
  cases hresult : (c.observe fun c => route c call.builtin args).1.result with
  | error e =>
    rw [runFrom_cons_of_error h hresult]
    exact ⟨_, rfl⟩
  | ok read =>
    rw [runFrom_cons_of_ok h hresult]
    exact ⟨_, rfl⟩

section

variable {route : Route σ} (hroute : route.Patient)
include hroute

/--
A script that gets more input behind what has arrived goes on from where the turn has stopped.
-/
theorem runFrom_supply (lastRead : Option Int64) (c : Console σ) (calls : List Call)
    (es : List Event) :
    runFrom route lastRead (c.supply es) calls
      =
    (turn route lastRead c calls).resume route es := by
  induction calls generalizing lastRead c with
  | nil => rfl
  | cons call calls ih =>
    rw [turn]
    cases hargs : call.arguments? lastRead with
    | none => exact runFrom_cons_of_none hargs calls
    | some args =>
      dsimp only
      by_cases hasks : (c.mark.observe fun c => route c call.builtin args).2.input.pending.isEmpty
      . rw [if_pos hasks]
        rfl
      . rw [if_neg hasks]
        rw [List.isEmpty_iff] at hasks
        obtain ⟨d, hd, hsupply⟩ :=
          (hroute.settles c (Call.length_of_arguments? hargs)).resolve_left hasks
        have hunmark : (c.mark.observe fun c => route c call.builtin args).2.unmark = d := by
          rw [hd, d.unmark_mark]
        rw [hunmark]
        -- The call is observed alike with the other input, and leaves that input to the next one.
        cases hresult : (c.mark.observe fun c => route c call.builtin args).1.result with
        | error e =>
          have herror : ((c.supply es).observe fun c => route c call.builtin args).1.result
              = .error e := by
            rw [hsupply, hresult]
          rw [runFrom_cons_of_error hargs herror, hsupply]
          rfl
        | ok read =>
          have hok : ((c.supply es).observe fun c => route c call.builtin args).1.result
              = .ok read := by
            rw [hsupply, hresult]
          rw [runFrom_cons_of_ok hargs hok, hsupply, ih, Turn.resume_prepend]

theorem exists_invocation_of_asks {lastRead : Option Int64} {c : Console σ} {calls : List Call}
    {wait : Wait σ} (h : turn route lastRead c calls = .asks wait) (es : List Event) :
    ∃ i rest,
      (runFrom route wait.lastRead (wait.made.console.supply es) wait.calls).invocations = i :: rest
        ∧ i.record.out = wait.out ∧ wait.log <+: i.record.log := by
  induction calls generalizing lastRead c wait with
  | nil => cases h
  | cons call calls ih =>
    rw [turn] at h
    cases hargs : call.arguments? lastRead with
    | none =>
      rw [hargs] at h
      cases h
    | some args =>
      have hlength := Call.length_of_arguments? hargs
      rw [hargs] at h
      dsimp only at h
      split at h
      . cases h
        obtain ⟨rest, hrest⟩ := exists_invocations_eq route hargs (c.supply es) calls
        exact ⟨_, rest, hrest, hroute.out_eq c hlength es, hroute.log_prefix c hlength es⟩
      . split at h
        . cases h
        . next read _ =>
          obtain ⟨wait', hwait', rfl⟩ := Turn.exists_of_prepend_eq_asks h
          have hrest := ih hwait'
          exact hrest

end

end Script

namespace Program

variable [Sink σ]

theorem patient_route (s : CommandLine.Settings) : (route (σ := σ) s).Patient := by
  unfold route
  split
  . exact Script.Route.patient_exported
  . exact Script.Route.patient_direct s.config

theorem parse_of_reader? {words : List String} {s : CommandLine.Settings}
    {calls : List Script.Call} (h : reader? words = some (s, calls)) :
    CommandLine.parse words = .ok s ∧ Script.parse s.calls = .ok calls := by
  unfold reader? at h
  cases hwords : CommandLine.parse words with
  | error stop =>
    rw [hwords] at h
    cases h
  | ok s' =>
    rw [hwords] at h
    dsimp only at h
    cases hcalls : Script.parse s'.calls with
    | error e =>
      rw [hcalls] at h
      cases h
    | ok calls' =>
      rw [hcalls] at h
      dsimp only at h
      split at h
      . cases h
        exact ⟨rfl, hcalls⟩
      . cases h

/--
A command line whose script reads comes to the same report, whether all of the input is there from
the beginning or a first part of it is there for one turn and the rest comes behind it.
-/
theorem run_supply {words : List String} {s : CommandLine.Settings} {calls : List Script.Call}
    (h : reader? words = some (s, calls)) (logSetting : Option String) (c : Console σ)
    (es : List Event) :
    run words logSetting (c.supply es)
      =
    .ofOutcome s calls (.ofSetting logSetting s.verbose)
      ((Script.turn (route s) none c calls).resume (route s) es) := by
  obtain ⟨hwords, hcalls⟩ := parse_of_reader? h
  rw [run_of_parse_eq_ok hwords, (runs_of_ok hcalls).runScript_eq s rfl, Script.run,
    Script.runFrom_supply (patient_route s)]

end Program

end IntConsole
