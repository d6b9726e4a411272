import IntConsole.Proofs.Session.Separation

/-!
This module contains what the call of a builtin by its name comes to: which calls are rejected, and
what the others do. The main statement is that a call which is rejected leaves no trace, so that a
session is the same without it.
-/

namespace IntConsole

def CallFailure.rejects : CallFailure → Bool
  | read _ => false
  | unknownBuiltin _ => true
  | arity _ _ _ => true

def Record.rejected (r : Record) : Bool :=
  match r.result with
  | .ok _ => false
  | .error e => e.rejects

def Record.announced (entry : Log.Entry) (r : Record) : Record :=
  { r with log := entry :: r.log }

namespace Builtin

def direct? (b : Builtin) (args : List Int64) : Option Step :=
  match b, args with
  | readInt, [] => some .readIntWithPolicy
  | printBool, [v] => some (.printBool v)
  | printInt, [v] => some (.printInt v)
  | println, [] => some .println
  | _, _ => none

end Builtin

variable {σ : Type}

namespace ReadPolicy

variable {policy : ReadPolicy} {read : Except ReadFailure Int64}

theorem mapError_resolve_eq_error_iff {e : CallFailure} :
    ((policy.resolve read).1.map some).mapError CallFailure.read = .error e
      ↔ policy = .propagate ∧ ∃ f, read = .error f ∧ e = .read f := by
  constructor
  . intro h
    cases read with
    | ok v => cases h
    | error f =>
      cases policy with
      | fallback v => cases h
      | propagate =>
        cases h
        exact ⟨rfl, f, rfl, rfl⟩
  . rintro ⟨rfl, f, rfl, rfl⟩
    rfl

theorem exists_value_of_mapError_resolve {value : Option Int64}
    (h : ((policy.resolve read).1.map some).mapError CallFailure.read = .ok value) :
    ∃ v, value = some v := by
  cases hread : (policy.resolve read).1 with
  | ok v =>
    rw [hread] at h
    cases h
    exact ⟨v, rfl⟩
  | error f =>
    rw [hread] at h
    cases h

end ReadPolicy

namespace Effect

theorem ofCall_of_length_ne (cfg : Config) {b : Builtin} {args : List Int64}
    (h : args.length ≠ b.params.length) :
    ofCall cfg b args = reject (.arity b.symbol b.params.length args.length) := by
  cases b with
  | readInt =>
    cases args with
    | nil => exact absurd rfl h
    | cons => rfl
  | printBool =>
    rcases args with _ | ⟨v, _ | ⟨w, args⟩⟩
    . rfl
    . exact absurd rfl h
    . rfl
  | printInt =>
    rcases args with _ | ⟨v, _ | ⟨w, args⟩⟩
    . rfl
    . exact absurd rfl h
    . rfl
  | println =>
    cases args with
    | nil => exact absurd rfl h
    | cons => rfl

variable [Sink σ]

theorem exists_direct_of_length_eq (cfg : Config) (c : Console σ) {b : Builtin}
    {args : List Int64} (h : args.length = b.params.length) :
    ∃ step, b.direct? args = some step
      ∧ (ofCall cfg b args).record cfg c
          = ((step.effect cfg).record cfg c).announced (.called b args)
      ∧ ((ofCall cfg b args).after cfg c).SameStreams ((step.effect cfg).after cfg c) := by
  cases b with
  | readInt =>
    obtain rfl := List.eq_nil_of_length_eq_zero h
    exact ⟨_, rfl, rfl, rfl, rfl⟩
  | printBool =>
    obtain ⟨v, rfl⟩ := List.length_eq_one_iff.1 h
    exact ⟨_, rfl, rfl, rfl, rfl⟩
  | printInt =>
    obtain ⟨v, rfl⟩ := List.length_eq_one_iff.1 h
    exact ⟨_, rfl, rfl, rfl, rfl⟩
  | println =>
    obtain rfl := List.eq_nil_of_length_eq_zero h
    exact ⟨_, rfl, rfl, rfl, rfl⟩

theorem exists_eq_reject {cfg : Config} {c : Console σ} {e : Effect}
    (h : (e.record cfg c).rejected = true) : ∃ failure, e = reject failure := by
  cases e with
  | reject failure => exact ⟨failure, rfl⟩
  | write entries pieces => cases h
  | read entries policy =>
    have hresult : ((read entries policy).record cfg c).result
        = ((policy.resolve c.input.readInt.1).1.map some).mapError .read := rfl
    rw [Record.rejected] at h
    split at h
    . cases h
    . next e he =>
      obtain ⟨-, f, -, rfl⟩ := ReadPolicy.mapError_resolve_eq_error_iff.1 (hresult ▸ he)
      cases h

end Effect

namespace Console

variable [Sink σ] (cfg : Config) (c : Console σ)

theorem callByName_eq_perform (name : String) (args : List Int64) :
    c.callByName cfg name args = ((Step.callByName name args).effect cfg).perform cfg c :=
  (Step.callByName name args).act_eq_perform cfg c

theorem effect_callByName_of_unknown {name : String} (h : ∀ b : Builtin, name ≠ b.symbol)
    (args : List Int64) :
    (Step.callByName name args).effect cfg = .reject (.unknownBuiltin name) := by
  rw [Step.effect, Builtin.ofSymbol?_eq_none.2 h]

theorem effect_callByName_symbol (b : Builtin) (args : List Int64) :
    (Step.callByName b.symbol args).effect cfg = .ofCall cfg b args := by
  rw [Step.effect, Builtin.ofSymbol?_symbol]

/--
The ways in which a call by name can go: the name is unknown, the number of arguments is wrong,
something is printed or an integer is read.
-/
inductive Goes : String → List Int64 → Prop where
  | unknown {name : String} {args : List Int64} (hunknown : ∀ b : Builtin, name ≠ b.symbol)
      (h : c.callByName cfg name args = (.error (.unknownBuiltin name), c)) : Goes name args
  | miscounted {b : Builtin} {args : List Int64} (hlength : args.length ≠ b.params.length)
      (h : c.callByName cfg b.symbol args
        = (.error (.arity b.symbol b.params.length args.length), c)) : Goes b.symbol args
  | prints {b : Builtin} {args : List Int64} (hlength : args.length = b.params.length)
      (hb : b ≠ .readInt) (h : (c.callByName cfg b.symbol args).1 = .ok none) : Goes b.symbol args
  | reads (h : (c.callByName cfg Builtin.readInt.symbol []).1
      = ((cfg.onReadFailure.resolve (c.readInt cfg).1).1.map some).mapError .read) :
    Goes Builtin.readInt.symbol []

theorem goes (name : String) (args : List Int64) : c.Goes cfg name args := by
  have hanswer := congrArg Prod.fst
    (Effect.perform_eq cfg c ((Step.callByName name args).effect cfg))
  rw [← callByName_eq_perform] at hanswer
  cases hb : Builtin.ofSymbol? name with
  | none =>
    have hunknown := Builtin.ofSymbol?_eq_none.1 hb
    refine .unknown hunknown ?_
    rw [callByName_eq_perform, effect_callByName_of_unknown cfg hunknown]
    rfl
  | some b =>
    obtain rfl := Builtin.ofSymbol?_eq_some.1 hb
    rw [effect_callByName_symbol] at hanswer
    by_cases hlength : args.length = b.params.length
    . by_cases hread : b = .readInt
      . subst hread
        obtain rfl := List.eq_nil_of_length_eq_zero hlength
        exact .reads hanswer
      . have hprints := Effect.answer_ofCall_of_ne cfg c.input hread hlength
        exact .prints hlength hread (hanswer.trans hprints)
    . refine .miscounted hlength ?_
      rw [callByName_eq_perform, effect_callByName_symbol, Effect.ofCall_of_length_ne cfg hlength]
      rfl

variable {name : String} {args : List Int64}

theorem callByName_eq_unknownBuiltin_iff (n : String) :
    (c.callByName cfg name args).1 = .error (.unknownBuiltin n)
      ↔ n = name ∧ ∀ b : Builtin, name ≠ b.symbol := by
  cases c.goes cfg name args with
  | unknown hunknown h =>
    rw [h]
    constructor
    . intro heq
      cases heq
      exact ⟨rfl, hunknown⟩
    . rintro ⟨rfl, -⟩
      rfl
  | @miscounted b _ hlength h =>
    rw [h]
    exact ⟨nofun, fun hb => absurd rfl (hb.2 b)⟩
  | @prints b _ hlength hne h =>
    rw [h]
    exact ⟨nofun, fun hb => absurd rfl (hb.2 b)⟩
  | reads h =>
    rw [h, ReadPolicy.mapError_resolve_eq_error_iff]
    exact ⟨nofun, fun hb => absurd rfl (hb.2 .readInt)⟩

theorem callByName_eq_arity_iff (n : String) (expected found : Nat) :
    (c.callByName cfg name args).1 = .error (.arity n expected found)
      ↔ ∃ b : Builtin, name = b.symbol ∧ args.length ≠ b.params.length
        ∧ n = b.symbol ∧ expected = b.params.length ∧ found = args.length := by
  cases c.goes cfg name args with
  | unknown hunknown h =>
    rw [h]
    refine ⟨nofun, ?_⟩
    rintro ⟨b, hb, -⟩
    exact absurd hb (hunknown b)
  | miscounted hlength h =>
    rw [h]
    constructor
    . intro heq
      cases heq
      exact ⟨_, rfl, hlength, rfl, rfl, rfl⟩
    . rintro ⟨b, hb, -, rfl, rfl, rfl⟩
      rw [Builtin.symbol_injective hb]
  | prints hlength hne h =>
    rw [h]
    refine ⟨nofun, ?_⟩
    rintro ⟨b, hb, hlength', -⟩
    rw [← Builtin.symbol_injective hb] at hlength'
    exact absurd hlength hlength'
  | reads h =>
    rw [h, ReadPolicy.mapError_resolve_eq_error_iff]
    refine ⟨nofun, ?_⟩
    rintro ⟨b, hb, hlength, -⟩
    rw [← Builtin.symbol_injective hb] at hlength
    exact absurd rfl hlength

theorem callByName_eq_read_iff (e : ReadFailure) :
    (c.callByName cfg name args).1 = .error (.read e)
      ↔ name = Builtin.readInt.symbol ∧ args = []
        ∧ cfg.onReadFailure = .propagate ∧ (c.readInt cfg).1 = .error e := by
  cases c.goes cfg name args with
  | unknown hunknown h =>
    rw [h]
    exact ⟨nofun, fun hread => absurd hread.1 (hunknown .readInt)⟩
  | miscounted hlength h =>
    rw [h]
    refine ⟨nofun, ?_⟩
    rintro ⟨hb, rfl, -⟩
    obtain rfl := Builtin.symbol_injective hb
    exact absurd rfl hlength
  | prints hlength hne h =>
    rw [h]
    exact ⟨nofun, fun hread => absurd (Builtin.symbol_injective hread.1) hne⟩
  | reads h =>
    rw [h, ReadPolicy.mapError_resolve_eq_error_iff]
    constructor
    . rintro ⟨hpolicy, f, hf, heq⟩
      cases heq
      exact ⟨rfl, rfl, hpolicy, hf⟩
    . rintro ⟨-, -, hpolicy, he⟩
      exact ⟨hpolicy, e, he, rfl⟩

theorem callByName_isSome_iff {value : Option Int64}
    (hvalue : (c.callByName cfg name args).1 = .ok value) :
    value.isSome ↔ name = Builtin.readInt.symbol := by
  cases c.goes cfg name args with
  | unknown hunknown h =>
    rw [h] at hvalue
    cases hvalue
  | miscounted hlength h =>
    rw [h] at hvalue
    cases hvalue
  | prints hlength hne h =>
    rw [h] at hvalue
    cases hvalue
    exact ⟨nofun, fun hread => absurd (Builtin.symbol_injective hread) hne⟩
  | reads h =>
    rw [h] at hvalue
    obtain ⟨v, rfl⟩ := ReadPolicy.exists_value_of_mapError_resolve hvalue
    exact ⟨fun _ => rfl, fun _ => rfl⟩

theorem callByName_of_rejects {e : CallFailure} (he : (c.callByName cfg name args).1 = .error e)
    (hrejects : e.rejects = true) : (c.callByName cfg name args).2 = c := by
  cases c.goes cfg name args with
  | unknown hunknown h => rw [h]
  | miscounted hlength h => rw [h]
  | prints hlength hne h =>
    rw [h] at he
    cases he
  | reads h =>
    rw [h] at he
    obtain ⟨-, f, -, rfl⟩ := ReadPolicy.mapError_resolve_eq_error_iff.1 he
    cases hrejects

theorem callByName_succeeds_iff :
    (∃ value, (c.callByName cfg name args).1 = .ok value)
      ↔ ∃ b : Builtin, name = b.symbol ∧ args.length = b.params.length
        ∧ (b = .readInt → cfg.onReadFailure = .propagate → ∃ v, (c.readInt cfg).1 = .ok v) := by
  cases c.goes cfg name args with
  | unknown hunknown h =>
    rw [h]
    refine ⟨nofun, ?_⟩
    rintro ⟨b, hb, -⟩
    exact absurd hb (hunknown b)
  | miscounted hlength h =>
    rw [h]
    refine ⟨nofun, ?_⟩
    rintro ⟨b, hb, hlength', -⟩
    rw [← Builtin.symbol_injective hb] at hlength'
    exact absurd hlength' hlength
  | prints hlength hne h =>
    rw [h]
    exact ⟨fun _ => ⟨_, rfl, hlength, fun hread => absurd hread hne⟩, fun _ => ⟨none, rfl⟩⟩
  | reads h =>
    rw [h]
    constructor
    . rintro ⟨value, hvalue⟩
      refine ⟨.readInt, rfl, rfl, fun _ hpolicy => ?_⟩
      cases hread : (c.readInt cfg).1 with
      | ok v => exact ⟨v, rfl⟩
      | error e =>
        have hfails := ReadPolicy.mapError_resolve_eq_error_iff.2 ⟨hpolicy, e, hread, rfl⟩
        rw [hvalue] at hfails
        cases hfails
    . rintro ⟨b, hb, -, hreads⟩
      cases hresult :
          ((cfg.onReadFailure.resolve (c.readInt cfg).1).1.map some).mapError CallFailure.read with
      | ok value => exact ⟨value, rfl⟩
      | error e =>
        obtain ⟨hpolicy, f, hf, -⟩ := ReadPolicy.mapError_resolve_eq_error_iff.1 hresult
        obtain ⟨v, hv⟩ := hreads (Builtin.symbol_injective hb).symm hpolicy
        rw [hf] at hv
        cases hv

theorem observe_callByName {b : Builtin} (h : args.length = b.params.length) :
    ∃ step, b.direct? args = some step
      ∧ (c.observe ((Step.callByName b.symbol args).act cfg)).1
          = (c.observe (step.act cfg)).1.announced (.called b args)
      ∧ (c.observe ((Step.callByName b.symbol args).act cfg)).2.SameStreams
          (c.observe (step.act cfg)).2 := by
  obtain ⟨step, hdirect, hrecord, hstreams⟩ := Effect.exists_direct_of_length_eq cfg c h
  refine ⟨step, hdirect, ?_⟩
  rw [observe_act, observe_act, effect_callByName_symbol]
  exact ⟨hrecord, hstreams⟩

structure Dispatch (name : String) (args : List Int64) : Prop where
  unknownBuiltin_iff : ∀ n, (c.callByName cfg name args).1 = .error (.unknownBuiltin n)
    ↔ n = name ∧ ∀ b : Builtin, name ≠ b.symbol
  arity_iff : ∀ n expected found, (c.callByName cfg name args).1 = .error (.arity n expected found)
    ↔ ∃ b : Builtin, name = b.symbol ∧ args.length ≠ b.params.length
      ∧ n = b.symbol ∧ expected = b.params.length ∧ found = args.length
  read_iff : ∀ e, (c.callByName cfg name args).1 = .error (.read e)
    ↔ name = Builtin.readInt.symbol ∧ args = []
      ∧ cfg.onReadFailure = .propagate ∧ (c.readInt cfg).1 = .error e
  succeeds_iff : (∃ value, (c.callByName cfg name args).1 = .ok value)
    ↔ ∃ b : Builtin, name = b.symbol ∧ args.length = b.params.length
      ∧ (b = .readInt → cfg.onReadFailure = .propagate → ∃ v, (c.readInt cfg).1 = .ok v)
  isSome_iff : ∀ value, (c.callByName cfg name args).1 = .ok value →
    (value.isSome ↔ name = Builtin.readInt.symbol)
  observed : ∀ b : Builtin, name = b.symbol → args.length = b.params.length →
    ∃ step, b.direct? args = some step
      ∧ (c.observe ((Step.callByName name args).act cfg)).1
          = (c.observe (step.act cfg)).1.announced (.called b args)
      ∧ (c.observe ((Step.callByName name args).act cfg)).2.SameStreams
          (c.observe (step.act cfg)).2
  untouched : ∀ e, (c.callByName cfg name args).1 = .error e → e.rejects = true →
    (c.callByName cfg name args).2 = c

theorem dispatch (name : String) (args : List Int64) : c.Dispatch cfg name args where
  unknownBuiltin_iff := c.callByName_eq_unknownBuiltin_iff cfg
  arity_iff := c.callByName_eq_arity_iff cfg
  read_iff := c.callByName_eq_read_iff cfg
  succeeds_iff := c.callByName_succeeds_iff cfg
  isSome_iff _ := c.callByName_isSome_iff cfg
  observed := by
    rintro b rfl h
    exact c.observe_callByName cfg h
  untouched _ := c.callByName_of_rejects cfg

end Console

namespace Session

variable [Sink σ]

def kept (cfg : Config) (c : Console σ) (steps : List Step) : List (Step × Record) :=
  (steps.zip (run cfg c steps).1).filter fun seen => !seen.2.rejected

theorem run_kept (cfg : Config) {c d : Console σ} (h : d.SameStreams c) (steps : List Step) :
    (run cfg d ((kept cfg c steps).map Prod.fst)).1 = (kept cfg c steps).map Prod.snd
      ∧ (run cfg d ((kept cfg c steps).map Prod.fst)).2.SameStreams (run cfg c steps).2 := by
  induction steps generalizing c d with
  | nil => exact ⟨rfl, h⟩
  | cons step steps ih =>
    cases hrejected : ((step.effect cfg).record cfg c).rejected with
    | true =>
      -- Nothing has been done, so the rest of the session goes on as if it began here.
      obtain ⟨failure, heffect⟩ := Effect.exists_eq_reject hrejected
      have hafter : d.SameStreams ((step.effect cfg).after cfg c) := by
        rw [heffect]
        exact ⟨h.input_eq, h.output_eq⟩
      have hkept : kept cfg c (step :: steps) = kept cfg ((step.effect cfg).after cfg c) steps := by
        rw [kept, run_cons_eq, List.zip_cons_cons, List.filter_cons_of_neg (by simp [hrejected])]
        rfl
      rw [hkept, run_cons_eq cfg c]
      exact ih hafter
    | false =>
      have hkept : kept cfg c (step :: steps)
          = (step, (step.effect cfg).record cfg c)
            :: kept cfg ((step.effect cfg).after cfg c) steps := by
        rw [kept, run_cons_eq, List.zip_cons_cons, List.filter_cons_of_pos (by simp [hrejected])]
        rfl
      obtain ⟨hrecords, hlast⟩ := ih (Effect.sameStreams_after h cfg (step.effect cfg))
      rw [hkept, List.map_cons, List.map_cons, run_cons_eq cfg c, run_cons_eq cfg d, hrecords,
        Effect.record_congr h]
      exact ⟨rfl, hlast⟩

/--
What a call by name comes to is decided by its name, its arguments and the read that it makes.
Calls that are rejected leave the console as it is: a session without the steps that are rejected
in it shows the same of all others, and ends with the same input and the same output.
-/
theorem rejected_without_trace (cfg : Config) (c : Console σ) :
    (∀ name args, c.Dispatch cfg name args)
      ∧ ∀ steps,
        (run cfg c ((kept cfg c steps).map Prod.fst)).1 = (kept cfg c steps).map Prod.snd
          ∧ (run cfg c ((kept cfg c steps).map Prod.fst)).2.SameStreams (run cfg c steps).2 :=
  ⟨c.dispatch cfg, run_kept cfg (.refl c)⟩

end Session

end IntConsole
