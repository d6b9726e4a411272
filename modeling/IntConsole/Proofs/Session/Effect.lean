import IntConsole.Session

/-!
This module contains the normal form of steps: whatever a step is called, it is rejected, writes a
text or reads an integer. The main statement is that steps do what their normal form does, so that
what holds of all steps is proved for three cases only.
-/

namespace IntConsole

inductive Effect where
  | reject (e : CallFailure)
  | write (entries : List Log.Entry) (pieces : List (List UInt8))
  | read (entries : List Log.Entry) (policy : ReadPolicy)

variable {σ : Type}

namespace Effect

def perform [Sink σ] (cfg : Config) (c : Console σ) :
    Effect → Except CallFailure (Option Int64) × Console σ
  | reject e => (.error e, c)
  | write entries pieces => (.ok none, (c.logAll entries).emit pieces cfg.flush)
  | read entries policy =>
    Step.ofRead ((c.logAll entries).readIntWithPolicy { cfg with onReadFailure := policy })

def pieces (cfg : Config) : Effect → List (List UInt8)
  | reject _ => []
  | write _ pieces => pieces
  | read _ _ => [Text.bytes cfg.prompt]

def text (cfg : Config) (e : Effect) : List UInt8 :=
  (e.pieces cfg).flatten

def ofCall (cfg : Config) (b : Builtin) (args : List Int64) : Effect :=
  match b, args with
  | .readInt, [] => read [.called b args] cfg.onReadFailure
  | .printBool, [v] => write [.called b args] [Text.bytes (Console.boolText v)]
  | .printInt, [v] => write [.called b args] (Decimal.pieces v.toInt)
  | .println, [] => write [.called b args] [Text.bytes "\n"]
  | _, _ => reject (.arity b.symbol b.params.length args.length)

end Effect

def Step.effect (cfg : Config) : Step → Effect
  | printInt v => .write [] (Decimal.pieces v.toInt)
  | printBool v => .write [] [Text.bytes (Console.boolText v)]
  | println => .write [] [Text.bytes "\n"]
  | readInt => .read [] .propagate
  | readIntWithPolicy => .read [] cfg.onReadFailure
  | call b args => .ofCall cfg b args
  | callByName name args =>
    match Builtin.ofSymbol? name with
    | some b => .ofCall cfg b args
    | none => .reject (.unknownBuiltin name)

@[simp]
theorem Step.fst_ofRead (r : Except ReadFailure Int64 × Console σ) :
    (ofRead r).1 = (r.1.map some).mapError .read := by
  rcases r with ⟨result, c⟩
  cases result <;> rfl

@[simp]
theorem Step.snd_ofRead (r : Except ReadFailure Int64 × Console σ) : (ofRead r).2 = r.2 := by
  rcases r with ⟨result, c⟩
  cases result <;> rfl

namespace Console

@[simp]
theorem logAll_nil (c : Console σ) : c.logAll [] = c := by
  rw [logAll, List.append_nil]

variable [Sink σ]

theorem readIntWithPolicy_propagate (c : Console σ) (cfg : Config) :
    c.readIntWithPolicy { cfg with onReadFailure := .propagate } = c.readInt cfg := by
  -- This policy hands every failure on and has nothing to log.
  have hread : c.readInt { cfg with onReadFailure := .propagate } = c.readInt cfg := rfl
  rw [readIntWithPolicy, hread]
  rcases c.readInt cfg with ⟨result, after⟩
  cases result with
  | ok v => exact congrArg (Prod.mk _) after.logAll_nil
  | error e => exact congrArg (Prod.mk _) after.logAll_nil

theorem call_eq_perform (c : Console σ) (cfg : Config) (b : Builtin) (args : List Int64) :
    c.call cfg b args = (Effect.ofCall cfg b args).perform cfg c := by
  cases b with
  | readInt =>
    cases args with
    | nil =>
      unfold call Effect.ofCall Effect.perform
      dsimp only
      rcases (c.logAll [.called .readInt []]).readIntWithPolicy cfg with ⟨result, after⟩
      cases result <;> rfl
    | cons => rfl
  | printBool => rcases args with _ | ⟨v, _ | ⟨w, args⟩⟩ <;> rfl
  | printInt => rcases args with _ | ⟨v, _ | ⟨w, args⟩⟩ <;> rfl
  | println => cases args <;> rfl

end Console

theorem Step.act_eq_perform [Sink σ] (cfg : Config) (c : Console σ) (step : Step) :
    step.act cfg c = (step.effect cfg).perform cfg c := by
  cases step with
  | printInt v => simp [act, effect, Effect.perform, Console.printInt]
  | printBool v => simp [act, effect, Effect.perform, Console.printBool]
  | println => simp [act, effect, Effect.perform, Console.println]
  | readInt =>
    rw [act, effect, Effect.perform, Console.readIntWithPolicy_propagate, Console.logAll_nil]
  | readIntWithPolicy => rw [act, effect, Effect.perform, Console.logAll_nil]
  | call b args => exact c.call_eq_perform cfg b args
  | callByName name args =>
    rw [act, effect, Console.callByName]
    cases Builtin.ofSymbol? name with
    | some b => exact c.call_eq_perform cfg b args
    | none => rfl

end IntConsole
