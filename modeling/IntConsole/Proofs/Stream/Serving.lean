import IntConsole.Proofs.Stream.Signals

/-!
This module contains inputs that serve a given list of bytes and then stay at their end. Runs are
read from them as from the list itself.
-/

namespace IntConsole

def Sight.front : List UInt8 → Sight
  | [] => .endOfInput
  | b :: _ => .byte b

def Event.Unnoticed (e : Event) : Prop :=
  e ≠ .endOfInput ∧ ∀ f, e = .fault f → f.kind = .interrupted

theorem Event.Unnoticed.signals_eq {e : Event} (h : e.Unnoticed) :
    e.signals = e.bytes.map .byte := by
  cases e with
  | data bs => rfl
  | endOfInput => exact absurd rfl h.1
  | fault f =>
    rw [Event.signals, if_pos (h.2 f rfl)]
    rfl

theorem Event.unnoticed_of_signals {e : Event} (h : ∀ sight ∈ e.signals, ∃ b, sight = .byte b) :
    e.Unnoticed := by
  constructor
  . rintro rfl
    obtain ⟨b, hb⟩ := h .endOfInput List.mem_cons_self
    cases hb
  . rintro f rfl
    by_cases hf : f.kind = .interrupted
    . exact hf
    . rw [Event.signals, if_neg hf] at h
      obtain ⟨b, hb⟩ := h (.fault f) List.mem_cons_self
      cases hb

namespace Input

/--
The bytes `bs` come from the input, cut into chunks in any way and interrupted any number of times,
and nothing but the final end of the input comes behind them.
-/
structure Serves (s : Input) (bs : List UInt8) : Prop where
  data_eq : s.data = bs
  unnoticed : ∀ e ∈ s.pending, e.Unnoticed

theorem serves_chunk (c : List UInt8) (position : Nat) : Serves ⟨c, [], position⟩ c where
  data_eq := List.append_nil c
  unnoticed := by simp

theorem serves_iff (s : Input) (bs : List UInt8) : s.Serves bs ↔ s.signals = bs.map .byte := by
  constructor
  . rintro ⟨rfl, h⟩
    have hpending : s.pending.map Event.signals = s.pending.map fun e => e.bytes.map .byte :=
      List.map_congr_left fun e he => (h e he).signals_eq
    rw [signals, data, List.map_append, List.map_flatMap, List.flatMap_def, hpending,
      List.flatMap_def]
  . intro h
    constructor
    . rw [data_eq_filterMap_signals, h, Sight.filterMap_byte?_map]
    . intro e he
      apply Event.unnoticed_of_signals
      intro sight hsight
      -- Whatever else an event has to show would be seen among the bytes.
      have hmem : sight ∈ s.signals := by
        rw [signals]
        apply List.mem_append_right
        exact List.mem_flatMap.2 ⟨e, he, hsight⟩
      rw [h] at hmem
      obtain ⟨b, -, hb⟩ := List.mem_map.1 hmem
      exact ⟨b, hb.symm⟩

theorem scan_map_byte (p : UInt8 → Bool) (bs : List UInt8) :
    scan p (bs.map .byte)
      =
    (bs.takeWhile p, .front (bs.dropWhile p), (bs.dropWhile p).map .byte) := by
  induction bs with
  | nil => rfl
  | cons b bs ih =>
    rw [List.map_cons, scan]
    by_cases hb : p b = true
    . rw [if_pos hb, ih, List.takeWhile_cons_of_pos hb, List.dropWhile_cons_of_pos hb]
    . rw [if_neg hb, List.takeWhile_cons_of_neg hb, List.dropWhile_cons_of_neg hb]
      rfl

section

variable {s : Input} {bs : List UInt8} (h : s.Serves bs) (p : UInt8 → Bool)
include h

theorem Serves.readWhile_eq :
    ((s.readWhile p).bytes, (s.readWhile p).sight, (s.readWhile p).rest.signals)
      =
    (bs.takeWhile p, .front (bs.dropWhile p), (bs.dropWhile p).map .byte) := by
  rw [readWhile_eq_scan, (serves_iff s bs).1 h, scan_map_byte]

theorem Serves.bytes_readWhile : (s.readWhile p).bytes = bs.takeWhile p :=
  congrArg Prod.fst (h.readWhile_eq p)

theorem Serves.sight_readWhile : (s.readWhile p).sight = .front (bs.dropWhile p) :=
  congrArg (fun r => r.2.1) (h.readWhile_eq p)

theorem Serves.rest_readWhile : (s.readWhile p).rest.Serves (bs.dropWhile p) := by
  rw [serves_iff]
  exact congrArg (fun r => r.2.2) (h.readWhile_eq p)

theorem Serves.sight_look : s.look.sight = .front bs := by
  rw [look, h.sight_readWhile]
  cases bs <;> rfl

theorem Serves.rest_look : s.look.rest.Serves bs := by
  have := h.rest_readWhile fun _ => false
  cases bs <;> exact this

end

theorem Serves.rest_advance {s : Input} {b : UInt8} {bs : List UInt8} (h : s.Serves (b :: bs)) :
    s.look.rest.advance.Serves bs := by
  have hsignals := (serves_iff _ _).1 h.rest_look
  rw [signals_of_look_eq_byte h.sight_look] at hsignals
  rw [serves_iff]
  exact List.tail_eq_of_cons_eq hsignals

end Input

end IntConsole
