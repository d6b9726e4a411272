import IntConsole.Proofs.Stream.Consumption

/-!
This module contains the equivalence of inputs that differ only in the way their bytes arrive: in
the borders of chunks, in empty chunks and in interruptions. The main statement is that two inputs
are equivalent exactly when the same can be seen of them.
-/

namespace IntConsole

namespace Event

def push (bs : List UInt8) (es : List Event) : List Event :=
  match bs, es with
  | [], es => es
  | b :: bs, .data cs :: es => .data (b :: bs ++ cs) :: es
  | b :: bs, es => .data (b :: bs) :: es

/--
The events without empty chunks and interruptions, where adjacent chunks are joined. Ends of input
and all other faults stay in place.
-/
def settle : List Event → List Event
  | [] => []
  | .data bs :: es => push bs (settle es)
  | .endOfInput :: es => .endOfInput :: settle es
  | .fault f :: es => if f.kind = .interrupted then settle es else .fault f :: settle es

theorem push_push (bs cs : List UInt8) (es : List Event) :
    push bs (push cs es) = push (bs ++ cs) es := by
  cases bs with
  | nil => rfl
  | cons b bs =>
    cases cs with
    | nil =>
      rw [List.append_nil]
      rfl
    | cons c cs =>
      cases es with
      | nil => rfl
      | cons e es =>
        cases e with
        | data ds => simp [push]
        | endOfInput => rfl
        | fault f => rfl

theorem signals_push (bs : List UInt8) (es : List Event) :
    (push bs es).flatMap signals = bs.map .byte ++ es.flatMap signals := by
  cases bs with
  | nil => rfl
  | cons b bs =>
    cases es with
    | nil => rfl
    | cons e es =>
      cases e with
      | data cs => simp [push, signals]
      | endOfInput => rfl
      | fault f => rfl

theorem signals_settle (es : List Event) : (settle es).flatMap signals = es.flatMap signals := by
  induction es with
  | nil => rfl
  | cons e es ih =>
    cases e with
    | data bs => rw [settle, signals_push, ih, List.flatMap_cons, signals]
    | endOfInput => rw [settle, List.flatMap_cons, ih, List.flatMap_cons]
    | fault f =>
      rw [settle, List.flatMap_cons, signals]
      by_cases hf : f.kind = .interrupted
      . rw [if_pos hf, if_pos hf, ih]
        rfl
      . rw [if_neg hf, if_neg hf, List.flatMap_cons, ih, signals, if_neg hf]

def ofSights : List Sight → List Event
  | [] => []
  | .byte b :: sights => push [b] (ofSights sights)
  | .endOfInput :: sights => .endOfInput :: ofSights sights
  | .fault f :: sights => .fault f :: ofSights sights

theorem ofSights_append (bs : List UInt8) (sights : List Sight) :
    ofSights (bs.map .byte ++ sights) = push bs (ofSights sights) := by
  induction bs with
  | nil => rfl
  | cons b bs ih =>
    rw [List.map_cons, List.cons_append, ofSights, ih, push_push]
    rfl

theorem settle_eq_ofSights (es : List Event) : settle es = ofSights (es.flatMap signals) := by
  induction es with
  | nil => rfl
  | cons e es ih =>
    cases e with
    | data bs => rw [settle, ih, List.flatMap_cons, signals, ofSights_append]
    | endOfInput =>
      rw [settle, ih]
      rfl
    | fault f =>
      rw [settle, ih, List.flatMap_cons, signals]
      by_cases hf : f.kind = .interrupted
      . rw [if_pos hf, if_pos hf]
        rfl
      . rw [if_neg hf, if_neg hf]
        rfl

theorem settle_eq_settle_iff (es fs : List Event) :
    settle es = settle fs ↔ es.flatMap signals = fs.flatMap signals := by
  constructor
  -- Settling keeps what can be seen, and settled events can be told from it.
  . intro h
    rw [← signals_settle es, ← signals_settle fs, h]
  . intro h
    rw [settle_eq_ofSights, settle_eq_ofSights, h]

end Event

namespace Input

/--
Two inputs from which the same bytes arrive between the same ends and faults, no matter how.
-/
def Equivalent (s t : Input) : Prop :=
  Event.settle (.data s.chunk :: s.pending) = Event.settle (.data t.chunk :: t.pending)

instance (s t : Input) : Decidable (s.Equivalent t) :=
  inferInstanceAs (Decidable (_ = _))

theorem equivalent_iff (s t : Input) : s.Equivalent t ↔ s.signals = t.signals := by
  rw [Equivalent, Event.settle_eq_settle_iff]
  rfl

end Input

end IntConsole
