import IntConsole.Script.Run

/-!
This module contains the turns in which a script is run while its input is still arriving. A turn
makes calls until the script comes to its end or a call asks for more input than has arrived. Behind
what has arrived a call finds a mark, so that it has asked for more exactly if the mark is gone.
-/

namespace IntConsole

namespace Console

variable {σ : Type}

def supply (c : Console σ) (es : List Event) : Console σ :=
  { c with input := c.input.supply es }

def mark (c : Console σ) : Console σ :=
  { c with input := c.input.mark }

def unmark (c : Console σ) : Console σ :=
  { c with input := c.input.unmark }

theorem unmark_mark (c : Console σ) : c.mark.unmark = c := by
  rw [mark, unmark, c.input.unmark_mark]

end Console

namespace Script

variable {σ : Type}

/--
A script that waits for more input. The first of the calls that are left asks for it.
-/
structure Wait (σ : Type := Output) where
  made : Outcome σ
  lastRead : Option Int64
  calls : List Call
  out : List UInt8
  log : List Log.Entry

inductive Turn (σ : Type := Output) where
  | ended (outcome : Outcome σ)
  | asks (wait : Wait σ)

def Turn.prepend (i : Invocation) : Turn σ → Turn σ
  | ended outcome => ended (outcome.prepend i)
  | asks wait => asks { wait with made := wait.made.prepend i }

def turn [Sink σ] (route : Route σ) (lastRead : Option Int64) (c : Console σ) :
    List Call → Turn σ
  | [] => .ended ⟨[], none, c⟩
  | call :: calls =>
    match call.arguments? lastRead with
    | none => .ended ⟨[], some (.nothingRead call.builtin), c⟩
    | some args =>
      let (record, after) := c.mark.observe fun c => route c call.builtin args
      if after.input.pending.isEmpty then
        -- What is warned of here is only that the input was not ready.
        let log := record.log.filter fun e => e.level ≠ .warn
        .asks ⟨⟨[], none, c⟩, lastRead, call :: calls, record.out, log⟩
      else
        let invocation := ⟨call.builtin, args, record⟩
        match record.result with
        | .error e => .ended ⟨[invocation], some (.call e), after.unmark⟩
        | .ok read => (turn route (read <|> lastRead) after.unmark calls).prepend invocation

end Script

end IntConsole
