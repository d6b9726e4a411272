import IntConsole.Proofs.Script.Route

/-!
This module contains the comparison of the two ways of calling builtins: through the entry points
and directly on a console with the default settings. The main statements are that both agree on
every call with the right number of arguments, and so on every script.
-/

namespace IntConsole

variable {σ : Type}

def Record.untraced (r : Record) : Record :=
  { r with log := r.log.filter fun e => e.level ≠ .trace }

namespace Effect

variable [Sink σ] {c d : Console σ} (h : c.SameStreams d)
include h

theorem logged_silent (cfg : Config) {e : Effect}
    (hentries : ∀ entry ∈ e.entries, entry.level = .trace) :
    e.silent.logged cfg c = (e.logged cfg d).filter fun e => e.level ≠ .trace := by
  have hsilent : e.silent.entries = [] := by cases e <;> rfl
  have hwarnings : e.silent.warnings c.input = e.warnings d.input := by
    rw [h.input_eq]
    cases e <;> rfl
  have hfilter := filter_logged cfg d hentries fun level => level ≠ .trace
  rw [logged, hsilent, hwarnings, print_silent, h.output_eq]
  exact hfilter.symm

theorem record_silent (cfg : Config) {e : Effect}
    (hentries : ∀ entry ∈ e.entries, entry.level = .trace) :
    e.silent.record cfg c = (e.record cfg d).untraced := by
  rw [Record.untraced, record, record, logged_silent h cfg hentries, answer_silent, print_silent,
    h.input_eq, h.output_eq]

theorem after_silent (cfg : Config) (e : Effect) :
    (e.silent.after cfg c).SameStreams (e.after cfg d) := by
  constructor
  . rw [after, after, answer_silent, h.input_eq]
  . rw [after, after, print_silent, h.output_eq]

end Effect

namespace Script

variable [Sink σ]

theorem Route.observe_exported {c d : Console σ} (h : c.SameStreams d) {b : Builtin}
    {args : List Int64} (hargs : args.length = b.params.length) :
    (c.observe fun c => exported c b args).1
        = (d.observe fun d => direct Exported.config d b args).1.untraced
      ∧ (c.observe fun c => exported c b args).2.SameStreams
          (d.observe fun d => direct Exported.config d b args).2 := by
  have hentries : ∀ entry ∈ (Effect.ofCall Exported.config b args).entries, entry.level = .trace :=
    fun entry hentry => Effect.level_of_mem_entries_ofCall hentry
  rw [observe_exported_eq c hargs, observe_direct]
  exact ⟨Effect.record_silent h _ hentries, Effect.after_silent h _ _⟩

theorem Route.replay_exported {c d : Console σ} (h : c.SameStreams d)
    {requests : List (Builtin × List Int64)}
    (hargs : ∀ request ∈ requests, request.2.length = request.1.params.length) :
    (exported.replay c requests).1
        = ((direct Exported.config).replay d requests).1.map Record.untraced
      ∧ (exported.replay c requests).2.SameStreams
          ((direct Exported.config).replay d requests).2 := by
  induction requests generalizing c d with
  | nil => exact ⟨rfl, h⟩
  | cons request requests ih =>
    obtain ⟨b, args⟩ := request
    obtain ⟨hrecord, hafter⟩ := observe_exported h (hargs (b, args) List.mem_cons_self)
    obtain ⟨hrecords, hlast⟩ :=
      ih hafter fun request hrequest => hargs request (List.mem_cons_of_mem _ hrequest)
    rw [replay_cons, replay_cons, List.map_cons, hrecord, hrecords]
    exact ⟨rfl, hlast⟩

def Invocation.untraced (i : Invocation) : Invocation :=
  { i with record := i.record.untraced }

/--
Two outcomes that differ only in what is logged when a builtin is about to run.
-/
structure Outcome.Agrees (o p : Outcome σ) : Prop where
  invocations_eq : o.invocations = p.invocations.map Invocation.untraced
  failure_eq : o.failure = p.failure
  sameStreams : o.console.SameStreams p.console

theorem runFrom_exported {c d : Console σ} (h : c.SameStreams d) (lastRead : Option Int64)
    (calls : List Call) :
    (runFrom .exported lastRead c calls).Agrees
      (runFrom (.direct Exported.config) lastRead d calls) := by
  -- A call comes to the same on both sides, so that both go on or stop with the same value.
  induction calls generalizing c d lastRead with
  | nil => exact ⟨rfl, rfl, h⟩
  | cons call calls ih =>
    cases hargs : call.arguments? lastRead with
    | none =>
      rw [runFrom_cons_of_none hargs, runFrom_cons_of_none hargs]
      exact ⟨rfl, rfl, h⟩
    | some args =>
      obtain ⟨hrecord, hafter⟩ := Route.observe_exported h (Call.length_of_arguments? hargs)
      have hresult := congrArg Record.result hrecord
      let seen := d.observe fun d => Route.direct Exported.config d call.builtin args
      cases hdirect : seen.1.result with
      | error e =>
        have hexported := hresult.trans hdirect
        rw [runFrom_cons_of_error hargs hexported, runFrom_cons_of_error hargs hdirect, hrecord]
        exact ⟨rfl, rfl, hafter⟩
      | ok read =>
        have hexported := hresult.trans hdirect
        rw [runFrom_cons_of_ok hargs hexported, runFrom_cons_of_ok hargs hdirect, hrecord]
        obtain ⟨hinvocations, hfailure, hlast⟩ := ih hafter (read <|> lastRead)
        refine ⟨?_, hfailure, hlast⟩
        rw [Outcome.prepend, Outcome.prepend, hinvocations]
        rfl

end Script

end IntConsole
