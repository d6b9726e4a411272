import IntConsole.Proofs.Session.Separation

/-!
This module contains what the policy of a console changes of calls and of sessions. The main
statement is that a policy which replaces failures leaves everything as it is, except that a read
under it which fails has a value and that there is one more entry about it.
-/

namespace IntConsole

variable {σ : Type}

def Record.recovered (v : Int64) (r : Record) : Record :=
  match r.result with
  | .error (.read e) => { r with result := .ok (some v), log := r.log ++ [.readFailed e v] }
  | _ => r

theorem Record.recovered_of_ok (v : Int64) {r : Record} {read : Option Int64}
    (h : r.result = .ok read) : r.recovered v = r := by
  rw [recovered, h]

theorem Record.recovered_of_error (v : Int64) {r : Record} {e : ReadFailure}
    (h : r.result = .error (.read e)) :
    r.recovered v = { r with result := .ok (some v), log := r.log ++ [.readFailed e v] } := by
  rw [recovered, h]

namespace Effect

variable [Sink σ] (prompt : String) (flush : Bool) (v : Int64) (c : Console σ)

theorem record_read_fallback (entries : List Log.Entry) :
    (read entries (.fallback v)).record ⟨prompt, flush, .fallback v⟩ c
      =
    ((read entries .propagate).record ⟨prompt, flush, .propagate⟩ c).recovered v := by
  unfold record answer logged warnings
  cases c.input.readInt.1 with
  | ok w => exact (Record.recovered_of_ok v rfl).symm
  | error e =>
    rw [Record.recovered_of_error v rfl]
    simp only [ReadPolicy.resolve, List.append_nil]
    rfl

theorem record_ofCall_recovered (b : Builtin) (args : List Int64) :
    (ofCall ⟨prompt, flush, .fallback v⟩ b args).record ⟨prompt, flush, .fallback v⟩ c
      =
    if b = .readInt && args.isEmpty then
      ((ofCall ⟨prompt, flush, .propagate⟩ b args).record ⟨prompt, flush, .propagate⟩ c).recovered v
    else
      (ofCall ⟨prompt, flush, .propagate⟩ b args).record ⟨prompt, flush, .propagate⟩ c := by
  cases b with
  | readInt =>
    cases args with
    | nil => exact record_read_fallback prompt flush v c _
    | cons => rfl
  | printBool => rcases args with _ | ⟨w, _ | ⟨x, args⟩⟩ <;> rfl
  | printInt => rcases args with _ | ⟨w, _ | ⟨x, args⟩⟩ <;> rfl
  | println => cases args <;> rfl

theorem record_ofCall_fallback {b : Builtin} {args : List Int64}
    (h : args.length = b.params.length) :
    (ofCall ⟨prompt, flush, .fallback v⟩ b args).record ⟨prompt, flush, .fallback v⟩ c
      =
    ((ofCall ⟨prompt, flush, .propagate⟩ b args).record ⟨prompt, flush, .propagate⟩ c).recovered
      v := by
  rw [record_ofCall_recovered]
  split
  . rfl
  . next hread =>
    have hb : b ≠ .readInt := by
      rintro rfl
      obtain rfl := List.eq_nil_of_length_eq_zero h
      exact hread rfl
    exact (Record.recovered_of_ok v (answer_ofCall_of_ne _ c.input hb h)).symm

theorem after_ofCall_fallback (b : Builtin) (args : List Int64) :
    (ofCall ⟨prompt, flush, .fallback v⟩ b args).after ⟨prompt, flush, .fallback v⟩ c
      = {
        (ofCall ⟨prompt, flush, .propagate⟩ b args).after ⟨prompt, flush, .propagate⟩ c with
        log :=
          ((ofCall ⟨prompt, flush, .fallback v⟩ b args).record ⟨prompt, flush, .fallback v⟩ c).log
      } := by
  rcases ofCall_cases b args with ⟨e, hcall⟩ | ⟨pieces, hcall⟩ | hcall
  . rw [hcall, hcall]
    rfl
  . rw [hcall, hcall]
    rfl
  . rw [hcall, hcall]
    rfl

end Effect

namespace Step

def readsUnderPolicy : Step → Bool
  | readIntWithPolicy => true
  | call b args => b = .readInt && args.isEmpty
  | callByName name args => name = Builtin.readInt.symbol && args.isEmpty
  | _ => false

variable [Sink σ] (prompt : String) (flush : Bool) (v : Int64) (c : Console σ)

theorem record_recovered (step : Step) :
    (step.effect ⟨prompt, flush, .fallback v⟩).record ⟨prompt, flush, .fallback v⟩ c
      =
    if step.readsUnderPolicy then
      ((step.effect ⟨prompt, flush, .propagate⟩).record ⟨prompt, flush, .propagate⟩ c).recovered v
    else
      (step.effect ⟨prompt, flush, .propagate⟩).record ⟨prompt, flush, .propagate⟩ c := by
  cases step with
  | readIntWithPolicy => exact Effect.record_read_fallback prompt flush v c []
  | call b args => exact Effect.record_ofCall_recovered prompt flush v c b args
  | callByName name args =>
    rw [effect, effect, readsUnderPolicy]
    cases hb : Builtin.ofSymbol? name with
    | some b =>
      obtain rfl := Builtin.ofSymbol?_eq_some.1 hb
      have hsymbol : b.symbol = Builtin.readInt.symbol ↔ b = .readInt :=
        ⟨Builtin.symbol_injective, congrArg Builtin.symbol⟩
      simp only [hsymbol]
      exact Effect.record_ofCall_recovered prompt flush v c b args
    | none =>
      have hne : name ≠ Builtin.readInt.symbol := Builtin.ofSymbol?_eq_none.1 hb .readInt
      simp only [hne, decide_false, Bool.false_and]
      rfl
  | _ => rfl

theorem sameStreams_after_fallback (step : Step) :
    ((step.effect ⟨prompt, flush, .fallback v⟩).after ⟨prompt, flush, .fallback v⟩ c).SameStreams
      ((step.effect ⟨prompt, flush, .propagate⟩).after ⟨prompt, flush, .propagate⟩ c) := by
  have hcall (b : Builtin) (args : List Int64) :
      ((Effect.ofCall ⟨prompt, flush, .fallback v⟩ b args).after ⟨prompt, flush, .fallback v⟩
        c).SameStreams
      ((Effect.ofCall ⟨prompt, flush, .propagate⟩ b args).after ⟨prompt, flush, .propagate⟩ c) := by
    rw [Effect.after_ofCall_fallback]
    exact ⟨rfl, rfl⟩
  cases step with
  | call b args => exact hcall b args
  | callByName name args =>
    rw [effect, effect]
    cases Builtin.ofSymbol? name with
    | some b => exact hcall b args
    | none => exact ⟨rfl, rfl⟩
  | _ => exact ⟨rfl, rfl⟩

end Step

namespace Session

variable [Sink σ]

theorem run_fallback (prompt : String) (flush : Bool) (v : Int64) {c d : Console σ}
    (h : c.SameStreams d) (steps : List Step) :
    (run ⟨prompt, flush, .fallback v⟩ c steps).1
        = List.zipWith (fun step r => if step.readsUnderPolicy then r.recovered v else r) steps
            (run ⟨prompt, flush, .propagate⟩ d steps).1
      ∧ (run ⟨prompt, flush, .fallback v⟩ c steps).2.SameStreams
          (run ⟨prompt, flush, .propagate⟩ d steps).2 := by
  -- A read that fails leaves the same input behind in both sessions.
  induction steps generalizing c d with
  | nil => exact ⟨rfl, h⟩
  | cons step steps ih =>
    have hafter :
        ((step.effect ⟨prompt, flush, .fallback v⟩).after ⟨prompt, flush, .fallback v⟩
          c).SameStreams
        ((step.effect ⟨prompt, flush, .propagate⟩).after ⟨prompt, flush, .propagate⟩ d) := by
      have hpolicy := step.sameStreams_after_fallback prompt flush v c
      have hstreams := Effect.sameStreams_after h ⟨prompt, flush, .propagate⟩
        (step.effect ⟨prompt, flush, .propagate⟩)
      exact ⟨hpolicy.input_eq.trans hstreams.input_eq, hpolicy.output_eq.trans hstreams.output_eq⟩
    obtain ⟨hrecords, hlast⟩ := ih hafter
    rw [run_cons_eq, run_cons_eq]
    refine ⟨?_, hlast⟩
    rw [List.zipWith_cons_cons, hrecords, step.record_recovered,
      Effect.record_congr h ⟨prompt, flush, .propagate⟩]

/--
A session on a console whose policy uses the value `v` for a read that fails, against the same
session on a console that passes failures on. A read under the policy that fails has the value `v`
and logs one more entry, which tells of the failure and of `v`. In everything else the steps are
observed alike, and behind each of them both consoles have the same input and the same output.
-/
theorem policy_postprocesses (prompt : String) (flush : Bool) (v : Int64) (c : Console σ)
    (steps : List Step) :
    (run ⟨prompt, flush, .fallback v⟩ c steps).1
        = List.zipWith (fun step r => if step.readsUnderPolicy then r.recovered v else r) steps
            (run ⟨prompt, flush, .propagate⟩ c steps).1
      ∧ ∀ k, (run ⟨prompt, flush, .fallback v⟩ c (steps.take k)).2.SameStreams
          (run ⟨prompt, flush, .propagate⟩ c (steps.take k)).2 := by
  have hrun := run_fallback prompt flush v (.refl c)
  exact ⟨(hrun steps).1, fun k => (hrun (steps.take k)).2⟩

end Session

end IntConsole
