import IntConsole.Stream.Fault

/-!
This module contains what a console asks of the stream that it writes on. Whatever takes bytes in
order, all of them or only the first ones, and may fail at any time, can be written on.

`Sink.accepted` is the view of a stream that the laws of this module are about: writing appends
bytes to it and changes nothing of what is already there. A text is handed over in pieces, as it is
formatted, and each piece is written as a whole before the next one.
-/

namespace IntConsole

inductive WriteFailure where
  | fault (f : Fault)
  | stalled
  deriving DecidableEq

def WriteFailure.message : WriteFailure → String
  | fault f => f.message
  | stalled => "failed to write whole buffer"

/--
The streams of type `σ` can be written on. A write fails exactly when it leaves bytes over.
-/
class Sink (σ : Type) where
  accepted : σ → List UInt8
  flushes : σ → Nat
  writeAll : σ → List UInt8 → Option WriteFailure × σ
  flush : σ → Option Fault × σ
  accepted_writeAll : ∀ w bs, ∃ n,
    accepted (writeAll w bs).2 = accepted w ++ bs.take n
      ∧ ((writeAll w bs).1 = none ↔ bs.length ≤ n)
  accepted_flush : ∀ w, accepted (flush w).2 = accepted w

namespace Sink

variable {σ : Type} [Sink σ]

def writePieces (w : σ) : List (List UInt8) → Option WriteFailure × σ
  | [] => (none, w)
  | piece :: pieces =>
    match writeAll w piece with
    | (some failure, w) => (some failure, w)
    | (none, w) => writePieces w pieces

def emit (w : σ) (pieces : List (List UInt8)) (flushing : Bool) : Option WriteFailure × σ :=
  match writePieces w pieces with
  | (some failure, w) => (some failure, w)
  | (none, w) =>
    if flushing then
      let (fault, w) := flush w
      (fault.map .fault, w)
    else
      (none, w)

theorem writeAll_eq_none_iff (w : σ) (bs : List UInt8) :
    (writeAll w bs).1 = none ↔ accepted (writeAll w bs).2 = accepted w ++ bs := by
  obtain ⟨n, haccepted, hnone⟩ := accepted_writeAll w bs
  rw [hnone, haccepted, List.append_cancel_left_eq]
  constructor
  . exact List.take_of_length_le
  . intro htake
    have hlength := List.length_take_le n bs
    rwa [htake] at hlength

theorem writePieces_cons_of_none {w : σ} {piece : List UInt8} (h : (writeAll w piece).1 = none)
    (pieces : List (List UInt8)) :
    writePieces w (piece :: pieces) = writePieces (writeAll w piece).2 pieces := by
  rw [writePieces]
  split
  . next hwrite =>
    rw [hwrite] at h
    cases h
  . next hwrite => rw [hwrite]

theorem writePieces_cons_of_some {w : σ} {piece : List UInt8} {failure : WriteFailure}
    (h : (writeAll w piece).1 = some failure) (pieces : List (List UInt8)) :
    writePieces w (piece :: pieces) = (some failure, (writeAll w piece).2) := by
  rw [writePieces]
  split
  . next hwrite =>
    rw [hwrite] at h
    cases h
    rw [hwrite]
  . next hwrite =>
    rw [hwrite] at h
    cases h

theorem accepted_writePieces (w : σ) (pieces : List (List UInt8)) :
    ∃ n, accepted (writePieces w pieces).2 = accepted w ++ pieces.flatten.take n
      ∧ ((writePieces w pieces).1 = none ↔ pieces.flatten.length ≤ n) := by
  induction pieces generalizing w with
  | nil => exact ⟨0, (List.append_nil _).symm, by simp [writePieces]⟩
  | cons piece pieces ih =>
    cases hwrite : (writeAll w piece).1 with
    | some failure =>
      obtain ⟨n, haccepted, hnone⟩ := accepted_writeAll w piece
      have hn : n < piece.length := by
        rw [hwrite] at hnone
        simpa using hnone
      refine ⟨n, ?_, ?_⟩
      . rw [writePieces_cons_of_some hwrite, haccepted, List.flatten_cons,
          List.take_append_of_le_length (Nat.le_of_lt hn)]
      . rw [writePieces_cons_of_some hwrite, List.flatten_cons, List.length_append]
        constructor
        . exact nofun
        . omega
    | none =>
      obtain ⟨n, haccepted, hnone⟩ := ih (writeAll w piece).2
      refine ⟨piece.length + n, ?_, ?_⟩
      . rw [writePieces_cons_of_none hwrite, haccepted, (writeAll_eq_none_iff w piece).1 hwrite,
          List.flatten_cons, List.take_length_add_append, List.append_assoc]
      . rw [writePieces_cons_of_none hwrite, hnone, List.flatten_cons, List.length_append]
        omega

theorem snd_emit (w : σ) (pieces : List (List UInt8)) (flushing : Bool) :
    (emit w pieces flushing).2 = (writePieces w pieces).2
      ∨ (emit w pieces flushing).2 = (flush (writePieces w pieces).2).2 := by
  unfold emit
  split
  . next h =>
    rw [h]
    exact .inl rfl
  . next h =>
    rw [h]
    split
    . exact .inr rfl
    . exact .inl rfl

theorem accepted_emit (w : σ) (pieces : List (List UInt8)) (flushing : Bool) :
    accepted (emit w pieces flushing).2 = accepted (writePieces w pieces).2 := by
  rcases snd_emit w pieces flushing with h | h
  . rw [h]
  . rw [h, accepted_flush]

end Sink

end IntConsole
