import IntConsole.Proofs.Reading.Intake
import IntConsole.Proofs.Script.Course
import IntConsole.Proofs.Session.Policy

/-!
This module contains the comparison of the two policies on a script: under the one a read that fails
ends the run, under the other the run goes on with a value in its place. The main statement is that
the first run is the second one cut behind the first read that fails.
-/

namespace IntConsole

variable {σ : Type}

/--
On the way from the console `c` to the console `d`, bytes of the input are read and bytes are added
to those that the output has accepted.
-/
structure Console.Leads [Sink σ] (c d : Console σ) : Prop where
  input : ∃ bs es, c.input.Consumes bs es d.input
  output : Sink.accepted c.output <+: Sink.accepted d.output

namespace Console.Leads

variable [Sink σ] {c d e : Console σ}

theorem of_streams_eq (hinput : c.input = d.input) (houtput : c.output = d.output) : c.Leads d where
  input := ⟨[], [], by rw [hinput]; exact .refl _⟩
  output := houtput ▸ List.prefix_refl _

theorem trans (h : c.Leads d) (h' : d.Leads e) : c.Leads e := by
  obtain ⟨bs, es, hconsumes⟩ := h.input
  obtain ⟨cs, fs, hconsumes'⟩ := h'.input
  exact ⟨⟨_, _, hconsumes.trans hconsumes'⟩, h.output.trans h'.output⟩

end Console.Leads

namespace Effect

variable [Sink σ]

theorem exists_consumes_answer (s : Input) (e : Effect) :
    ∃ bs es, s.Consumes bs es (e.answer s).2 := by
  cases e with
  | reject e => exact ⟨[], [], .refl s⟩
  | write entries pieces => exact ⟨[], [], .refl s⟩
  | read entries policy =>
    obtain ⟨i, hi⟩ := s.exists_explains_readInt
    exact ⟨i.bytes, i.events, hi.consumes⟩

theorem accepted_print (cfg : Config) (w : σ) (e : Effect) :
    Sink.accepted w <+: Sink.accepted (e.print cfg w).2 := by
  have hemit (pieces : List (List UInt8)) (flushing : Bool) :
      Sink.accepted w <+: Sink.accepted (Sink.emit w pieces flushing).2 := by
    obtain ⟨n, hn, -⟩ := Sink.accepted_writePieces w pieces
    rw [Sink.accepted_emit, hn]
    exact List.prefix_append _ _
  cases e with
  | reject e => exact List.prefix_refl _
  | write entries pieces => exact hemit _ _
  | read entries policy => exact hemit _ _

theorem leads_after (cfg : Config) (c : Console σ) (e : Effect) : c.Leads (e.after cfg c) where
  input := exists_consumes_answer c.input e
  output := accepted_print cfg c.output e

end Effect

namespace Script

variable [Sink σ]

theorem Route.leads_observe_direct (cfg : Config) (c : Console σ) (b : Builtin)
    (args : List Int64) : c.Leads (c.observe fun c => direct cfg c b args).2 := by
  rw [observe_direct]
  exact Effect.leads_after cfg c _

theorem leads_runFrom (cfg : Config) (lastRead : Option Int64) (c : Console σ)
    (calls : List Call) : c.Leads (runFrom (.direct cfg) lastRead c calls).console := by
  induction calls generalizing c lastRead with
  | nil => exact .of_streams_eq rfl rfl
  | cons call calls ih =>
    cases hargs : call.arguments? lastRead with
    | none =>
      rw [runFrom_cons_of_none hargs]
      exact .of_streams_eq rfl rfl
    | some args =>
      have hcall := Route.leads_observe_direct cfg c call.builtin args
      cases hresult : (c.observe fun c => Route.direct cfg c call.builtin args).1.result with
      | error e =>
        rw [runFrom_cons_of_error hargs hresult]
        exact hcall
      | ok read =>
        rw [runFrom_cons_of_ok hargs hresult]
        exact hcall.trans (ih (read <|> lastRead) _)

def Invocation.recovered (v : Int64) (i : Invocation) : Invocation :=
  { i with record := i.record.recovered v }

/--
The outcome `p` is the outcome `q` cut behind the invocation `i` of a read, which is the first one
that fails. In `q` the read has the value `v` instead and there are more invocations `behind` it.
-/
structure Outcome.CutOf (v : Int64) (start : Console σ) (p q : Outcome σ)
    (before : List Invocation) (i : Invocation) (e : ReadFailure) (behind : List Invocation) :
    Prop where
  invocations_eq : p.invocations = before ++ [i]
  invocations_eq_recovered : q.invocations = before ++ i.recovered v :: behind
  succeeds : ∀ j ∈ before, j.Succeeds
  builtin_eq : i.builtin = .readInt
  args_eq : i.args = []
  result_eq : i.record.result = .error (.read e)
  failure_eq : p.failure = some (.call (.read e))
  reaches : start.Leads p.console
  goesOn : p.console.Leads q.console

theorem Outcome.CutOf.prepend {v : Int64} {start c : Console σ} {p q : Outcome σ}
    {before behind : List Invocation} {i : Invocation} {e : ReadFailure}
    (h : p.CutOf v c q before i e behind) (hstart : start.Leads c) {j : Invocation}
    (hj : j.Succeeds) : (p.prepend j).CutOf v start (q.prepend j) (j :: before) i e behind where
  invocations_eq := congrArg (j :: ·) h.invocations_eq
  invocations_eq_recovered := congrArg (j :: ·) h.invocations_eq_recovered
  succeeds := by
    intro k hk
    rcases List.mem_cons.1 hk with rfl | hk
    . exact hj
    . exact h.succeeds k hk
  builtin_eq := h.builtin_eq
  args_eq := h.args_eq
  result_eq := h.result_eq
  failure_eq := h.failure_eq
  reaches := hstart.trans h.reaches
  goesOn := h.goesOn

abbrev Route.strict (prompt : String) (flush : Bool) : Route σ :=
  .direct ⟨prompt, flush, .propagate⟩

abbrev Route.recovering (prompt : String) (flush : Bool) (v : Int64) : Route σ :=
  .direct ⟨prompt, flush, .fallback v⟩

section

variable {prompt : String} {flush : Bool} (v : Int64) {c : Console σ} {call : Call}
  {args : List Int64}

theorem Route.observe_recovering {b : Builtin} (h : args.length = b.params.length) :
    let seen := c.observe fun c => strict prompt flush c b args
    (c.observe fun c => recovering prompt flush v c b args)
      =
    (seen.1.recovered v, { seen.2 with log := (seen.1.recovered v).log }) := by
  dsimp only
  rw [observe_direct, observe_direct, Effect.after_ofCall_fallback,
    Effect.record_ofCall_fallback prompt flush v c h]

theorem Route.observe_recovering_of_ok {b : Builtin} (h : args.length = b.params.length)
    {read : Option Int64}
    (hread : (c.observe fun c => strict prompt flush c b args).1.result = .ok read) :
    (c.observe fun c => recovering prompt flush v c b args)
      = c.observe fun c => strict prompt flush c b args := by
  rw [observe_recovering v h, Record.recovered_of_ok v hread]
  rfl

theorem exists_cutOf_of_error {lastRead : Option Int64}
    (hargs : call.arguments? lastRead = some args) {e : ReadFailure} (hb : call.builtin = .readInt)
    (he : (c.observe fun c => Route.strict prompt flush c call.builtin args).1.result
      = .error (.read e)) (calls : List Call) :
    ∃ i behind, (runFrom (.strict prompt flush) lastRead c (call :: calls)).CutOf v c
      (runFrom (.recovering prompt flush v) lastRead c (call :: calls)) [] i e behind := by
  have hlength := Call.length_of_arguments? hargs
  have hseen : (c.observe fun c => Route.recovering prompt flush v c call.builtin args) = _ :=
    Route.observe_recovering v hlength
  have hgoesOn : (c.observe fun c =>
      Route.recovering prompt flush v c call.builtin args).1.result = .ok (some v) := by
    rw [hseen, Record.recovered_of_error v he]
  have hrest := leads_runFrom ⟨prompt, flush, .fallback v⟩ (some v <|> lastRead)
    (c.observe fun c => Route.recovering prompt flush v c call.builtin args).2 calls
  have hinvocation :
      (⟨call.builtin, args,
          (c.observe fun c => Route.recovering prompt flush v c call.builtin args).1⟩ : Invocation)
        = Invocation.recovered v ⟨call.builtin, args,
          (c.observe fun c => Route.strict prompt flush c call.builtin args).1⟩ := by
    rw [hseen]
    rfl
  rw [runFrom_cons_of_error hargs he, runFrom_cons_of_ok hargs hgoesOn]
  refine ⟨_, _, {
    invocations_eq := rfl
    invocations_eq_recovered := congrArg (· :: _) hinvocation
    succeeds := by simp
    builtin_eq := hb
    args_eq := ?_
    result_eq := he
    failure_eq := rfl
    reaches := Route.leads_observe_direct _ c call.builtin args
    goesOn := .trans (.of_streams_eq ?_ ?_) hrest
  }⟩
  . rw [hb] at hlength
    exact List.eq_nil_of_length_eq_zero hlength
  . rw [hseen]
  . rw [hseen]

theorem runFrom_strict (lastRead : Option Int64) (c : Console σ) (calls : List Call) :
    let p := runFrom (.strict prompt flush) lastRead c calls
    let q := runFrom (.recovering prompt flush v) lastRead c calls
    (p = q ∧ ∀ i ∈ p.invocations, i.Succeeds)
      ∨ ∃ before i e behind, p.CutOf v c q before i e behind := by
  -- As long as no read fails, both runs hand on the same value and go on with the same console.
  induction calls generalizing c lastRead with
  | nil => exact .inl ⟨rfl, by simp [runFrom]⟩
  | cons call calls ih =>
    cases hargs : call.arguments? lastRead with
    | none =>
      rw [runFrom_cons_of_none hargs, runFrom_cons_of_none hargs]
      exact .inl ⟨rfl, by simp⟩
    | some args =>
      have hlength := Call.length_of_arguments? hargs
      have hregular :=
        (Route.regular_direct ⟨prompt, flush, .propagate⟩).result_observe hlength c
      cases hresult : (c.observe fun c =>
          Route.strict prompt flush c call.builtin args).1.result with
      | error e =>
        rw [hresult] at hregular
        obtain ⟨hb, ⟨w, hw⟩ | ⟨f, hf⟩⟩ | ⟨-, hnone⟩ := hregular
        . cases hw
        . cases hf
          obtain ⟨i, behind, hcut⟩ := exists_cutOf_of_error v hargs hb hresult calls
          exact .inr ⟨[], i, f, behind, hcut⟩
        . cases hnone
      | ok read =>
        have hsame := Route.observe_recovering_of_ok v hlength hresult
        have hgoesOn := hresult
        rw [← hsame] at hgoesOn
        rw [runFrom_cons_of_ok hargs hresult, runFrom_cons_of_ok hargs hgoesOn, hsame]
        let seen := c.observe fun c => Route.strict prompt flush c call.builtin args
        have hj : Invocation.Succeeds ⟨call.builtin, args, seen.1⟩ := ⟨read, hresult⟩
        rcases ih (read <|> lastRead) seen.2 with ⟨heq, hsucceeds⟩ | ⟨before, i, e, behind, hcut⟩
        . refine .inl ⟨congrArg (Outcome.prepend _) heq, ?_⟩
          intro i hi
          rcases List.mem_cons.1 hi with rfl | hi
          . exact hj
          . exact hsucceeds i hi
        . have hleads : c.Leads seen.2 := Route.leads_observe_direct _ c call.builtin args
          exact .inr ⟨_, i, e, behind, hcut.prepend hleads hj⟩

end

/--
When no read fails, it makes no difference whether a failure would end the run. Else the run that
fails is cut behind the first read that does, where the other run goes on with `v`: what it has
written is at the front of what the other one writes, and what it has read is at the front of what
the other one reads.
-/
theorem strict_run_cut (prompt : String) (flush : Bool) (v : Int64) (c : Console σ)
    (calls : List Call) :
    let p := run (.strict prompt flush) c calls
    let q := run (.recovering prompt flush v) c calls
    ((∀ i ∈ p.invocations, i.builtin = .readInt → i.Succeeds) → p = q)
      ∧ ((∃ i ∈ p.invocations, i.builtin = .readInt ∧ ¬i.Succeeds) →
        ∃ before i e behind, p.CutOf v c q before i e behind
          ∧ Sink.accepted p.console.output <+: Sink.accepted q.console.output
          ∧ ∃ bs cs es fs, c.input.Consumes bs es p.console.input
            ∧ c.input.Consumes (bs ++ cs) (es ++ fs) q.console.input) := by
  intro p q
  rcases runFrom_strict v none c calls with ⟨heq, hsucceeds⟩ | ⟨before, i, e, behind, hcut⟩
  . refine ⟨fun _ => heq, ?_⟩
    rintro ⟨i, hi, -, hfails⟩
    exact absurd (hsucceeds i hi) hfails
  . have hcut : p.CutOf v c q before i e behind := hcut
    have hi : i ∈ p.invocations := by
      rw [hcut.invocations_eq]
      exact List.mem_append_right before List.mem_cons_self
    have hfails : ¬i.Succeeds := by
      rintro ⟨read, hread⟩
      rw [hcut.result_eq] at hread
      cases hread
    refine ⟨fun hsucceeds => absurd (hsucceeds i hi hcut.builtin_eq) hfails, fun _ => ?_⟩
    obtain ⟨bs, es, hreads⟩ := hcut.reaches.input
    obtain ⟨cs, fs, hreads'⟩ := hcut.goesOn.input
    exact ⟨before, i, e, behind, hcut, hcut.goesOn.output, bs, cs, es, fs, hreads,
      hreads.trans hreads'⟩

end Script

end IntConsole
