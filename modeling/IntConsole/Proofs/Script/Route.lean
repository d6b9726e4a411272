import IntConsole.Proofs.Session.Separation
import IntConsole.Script.Run

/-!
This module contains what the two ways of calling builtins have in common: what a call comes to when
it has the right number of arguments. The main statement is that both are regular, such that prints
never fail and reads fail with a failure of the input only.
-/

namespace IntConsole

variable {σ : Type}

def Effect.silent : Effect → Effect
  | reject e => reject e
  | write _ pieces => write [] pieces
  | read _ policy => read [] policy

theorem Effect.answer_silent (s : Input) (e : Effect) : e.silent.answer s = e.answer s := by
  cases e <;> rfl

theorem Effect.print_silent [Sink σ] (cfg : Config) (w : σ) (e : Effect) :
    e.silent.print cfg w = e.print cfg w := by
  cases e <;> rfl

namespace Exported

variable [Sink σ]

theorem readInt_eq (c : Console σ) :
    ((Except.ok (readInt c).1 : Except ReadFailure Int64), (readInt c).2)
      =
    c.readIntWithPolicy config := by
  have hpolicy : config.onReadFailure = .fallback 0 := rfl
  unfold readInt Console.readIntWithPolicy
  dsimp only
  rw [hpolicy]
  cases (c.readInt config).1 <;> rfl

theorem call_eq_perform (c : Console σ) {b : Builtin} {args : List Int64}
    (h : args.length = b.params.length) :
    call c b args = ((Effect.ofCall config b args).silent).perform config c := by
  cases b with
  | readInt =>
    obtain rfl := List.eq_nil_of_length_eq_zero h
    have hperform :
        ((Effect.ofCall config .readInt []).silent).perform config c
          = Step.ofRead (c.readIntWithPolicy config) := by
      change Step.ofRead ((c.logAll []).readIntWithPolicy config) = _
      rw [Console.logAll_nil]
    rw [hperform, ← readInt_eq]
    rfl
  | printBool =>
    obtain ⟨v, rfl⟩ := List.length_eq_one_iff.1 h
    change _ = (Except.ok none, (c.logAll []).emit _ _)
    rw [Console.logAll_nil]
    rfl
  | printInt =>
    obtain ⟨v, rfl⟩ := List.length_eq_one_iff.1 h
    change _ = (Except.ok none, (c.logAll []).emit _ _)
    rw [Console.logAll_nil]
    rfl
  | println =>
    obtain rfl := List.eq_nil_of_length_eq_zero h
    change _ = (Except.ok none, (c.logAll []).emit _ _)
    rw [Console.logAll_nil]
    rfl

end Exported

namespace Script

/--
What a call comes to when it has as many arguments as its builtin takes.
-/
structure Route.Regular (route : Route σ) : Prop where
  fst_readInt : ∀ c, ∃ r : Except ReadFailure Int64,
    (route c .readInt []).1 = (r.map some).mapError .read
  fst_print : ∀ c b args, b ≠ .readInt → args.length = b.params.length →
    (route c b args).1 = .ok none

variable [Sink σ]

theorem Route.fst_direct (cfg : Config) (c : Console σ) (b : Builtin) (args : List Int64) :
    (direct cfg c b args).1 = ((Effect.ofCall cfg b args).answer c.input).1 := by
  rw [direct, Console.call_eq_perform, Effect.perform_eq]

theorem Route.fst_exported (c : Console σ) {b : Builtin} {args : List Int64}
    (h : args.length = b.params.length) :
    (exported c b args).1 = ((Effect.ofCall Exported.config b args).answer c.input).1 := by
  rw [exported, Exported.call_eq_perform c h, Effect.perform_eq, Effect.answer_silent]

theorem Route.observe_direct (cfg : Config) (c : Console σ) (b : Builtin) (args : List Int64) :
    (c.observe fun c => direct cfg c b args)
      =
    ((Effect.ofCall cfg b args).record cfg c, (Effect.ofCall cfg b args).after cfg c) := by
  have hdirect : (fun c : Console σ => direct cfg c b args)
      = fun c => (Effect.ofCall cfg b args).perform cfg c := by
    funext c
    exact c.call_eq_perform cfg b args
  rw [hdirect, Effect.observe_perform]

theorem Route.observe_exported_eq (c : Console σ) {b : Builtin} {args : List Int64}
    (h : args.length = b.params.length) :
    (c.observe fun c => exported c b args)
      =
    ((Effect.ofCall Exported.config b args).silent.record Exported.config c,
      (Effect.ofCall Exported.config b args).silent.after Exported.config c) := by
  have hexported : (fun c : Console σ => exported c b args)
      = fun c => (Effect.ofCall Exported.config b args).silent.perform Exported.config c := by
    funext c
    exact Exported.call_eq_perform c h
  rw [hexported, Effect.observe_perform]

theorem Route.regular_direct (cfg : Config) : (Route.direct (σ := σ) cfg).Regular where
  fst_readInt c := by
    rw [fst_direct]
    exact ⟨_, rfl⟩
  fst_print c b args hb h := by
    rw [fst_direct]
    exact Effect.answer_ofCall_of_ne cfg c.input hb h

theorem Route.regular_exported : (Route.exported (σ := σ)).Regular where
  fst_readInt c := by
    rw [fst_exported c rfl]
    exact ⟨_, rfl⟩
  fst_print c b args hb h := by
    rw [fst_exported c h]
    exact Effect.answer_ofCall_of_ne Exported.config c.input hb h

def Route.replay (route : Route σ) (c : Console σ) :
    List (Builtin × List Int64) → List Record × Console σ
  | [] => ([], c)
  | (b, args) :: requests =>
    let (record, c) := c.observe fun c => route c b args
    let (records, c) := replay route c requests
    (record :: records, c)

theorem Route.replay_cons (route : Route σ) (c : Console σ) (b : Builtin) (args : List Int64)
    (requests : List (Builtin × List Int64)) :
    replay route c ((b, args) :: requests)
      =
    ((c.observe fun c => route c b args).1
        :: (replay route (c.observe fun c => route c b args).2 requests).1,
      (replay route (c.observe fun c => route c b args).2 requests).2) := rfl

theorem Route.replay_concat (route : Route σ) (c : Console σ)
    (requests : List (Builtin × List Int64)) (b : Builtin) (args : List Int64) :
    replay route c (requests ++ [(b, args)])
      =
    ((replay route c requests).1
        ++ [((replay route c requests).2.observe fun c => route c b args).1],
      ((replay route c requests).2.observe fun c => route c b args).2) := by
  induction requests generalizing c with
  | nil => rfl
  | cons request requests ih =>
    obtain ⟨b', args'⟩ := request
    rw [List.cons_append, replay_cons, replay_cons, ih]
    rfl

theorem Route.replay_direct (cfg : Config) (c : Console σ)
    (requests : List (Builtin × List Int64)) :
    replay (direct cfg) c requests
      =
    Session.run cfg c (requests.map fun request => .call request.1 request.2) := by
  induction requests generalizing c with
  | nil => rfl
  | cons request requests ih =>
    obtain ⟨b, args⟩ := request
    rw [List.map_cons, Session.run_cons, replay_cons, ih]
    rfl

section

variable {lastRead : Option Int64} {call : Call} {args : List Int64}

theorem Call.length_of_arguments? (h : call.arguments? lastRead = some args) :
    args.length = call.builtin.params.length := by
  unfold arguments? at h
  split at h
  . next hempty =>
    cases h
    rw [List.isEmpty_iff.1 hempty]
    rfl
  . next hempty =>
    obtain ⟨v, -, rfl⟩ := Option.map_eq_some_iff.1 h
    cases hb : call.builtin with
    | readInt => simp [hb, Builtin.params] at hempty
    | println => simp [hb, Builtin.params] at hempty
    | printBool => rfl
    | printInt => rfl

variable {route : Route σ} {c : Console σ}

theorem runFrom_cons_of_none (h : call.arguments? lastRead = none) (rest : List Call) :
    runFrom route lastRead c (call :: rest) = ⟨[], some (.nothingRead call.builtin), c⟩ := by
  rw [runFrom, h]

theorem runFrom_cons_of_error (h : call.arguments? lastRead = some args) {e : CallFailure}
    (he : (c.observe fun c => route c call.builtin args).1.result = .error e) (rest : List Call) :
    runFrom route lastRead c (call :: rest)
      =
    ⟨[⟨call.builtin, args, (c.observe fun c => route c call.builtin args).1⟩], some (.call e),
      (c.observe fun c => route c call.builtin args).2⟩ := by
  rw [runFrom, h]
  dsimp only
  rw [he]

theorem runFrom_cons_of_ok (h : call.arguments? lastRead = some args) {read : Option Int64}
    (hread : (c.observe fun c => route c call.builtin args).1.result = .ok read)
    (rest : List Call) :
    runFrom route lastRead c (call :: rest)
      =
    (runFrom route (read <|> lastRead) (c.observe fun c => route c call.builtin args).2
      rest).prepend ⟨call.builtin, args, (c.observe fun c => route c call.builtin args).1⟩ := by
  rw [runFrom, h]
  dsimp only
  rw [hread]

end

end Script

end IntConsole
