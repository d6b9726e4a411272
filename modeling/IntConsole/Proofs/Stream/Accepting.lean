import IntConsole.Stream.Sink

/-!
This module contains the streams that accept every text. The main statement is that a stream which
accepts everything at first and stays in such a state accepts everything for good.
-/

namespace IntConsole

namespace Sink

inductive Request where
  | write (bs : List UInt8)
  | flush

variable {σ : Type} [Sink σ]

def ask (w : σ) : Request → σ
  | .write bs => (writeAll w bs).2
  | .flush => (flush w).2

/--
Whatever the stream has been asked for, it accepts the whole of the next text.
-/
def AcceptsAll (w : σ) : Prop :=
  ∀ (requests : List Request) (bs : List UInt8),
    accepted (writeAll (requests.foldl ask w) bs).2 = accepted (requests.foldl ask w) ++ bs

theorem acceptsAll_of_invariant {P : σ → Prop} (hask : ∀ w r, P w → P (ask w r))
    (hwrite : ∀ w bs, P w → accepted (writeAll w bs).2 = accepted w ++ bs) {w : σ} (hw : P w) :
    AcceptsAll w := by
  intro requests
  induction requests generalizing w with
  | nil => exact fun bs => hwrite w bs hw
  | cons r requests ih => exact ih (hask w r hw)

namespace AcceptsAll

variable {w : σ} (h : AcceptsAll w)
include h

theorem ask (r : Request) : AcceptsAll (ask w r) :=
  fun requests => h (r :: requests)

theorem writePieces (pieces : List (List UInt8)) :
    accepted (writePieces w pieces).2 = accepted w ++ pieces.flatten
      ∧ AcceptsAll (writePieces w pieces).2 := by
  induction pieces generalizing w with
  | nil => exact ⟨(List.append_nil _).symm, h⟩
  | cons piece pieces ih =>
    -- A piece that is accepted as a whole has not failed.
    have hpiece : accepted (writeAll w piece).2 = accepted w ++ piece := h [] piece
    have hnext : AcceptsAll (writeAll w piece).2 := h.ask (.write piece)
    obtain ⟨haccepted, hrest⟩ := ih hnext
    rw [writePieces_cons_of_none ((writeAll_eq_none_iff w piece).2 hpiece)]
    refine ⟨?_, hrest⟩
    rw [haccepted, hpiece, List.flatten_cons, List.append_assoc]

theorem accepted_emit (pieces : List (List UInt8)) (flushing : Bool) :
    accepted (emit w pieces flushing).2 = accepted w ++ pieces.flatten := by
  rw [Sink.accepted_emit]
  exact (h.writePieces pieces).1

theorem emit (pieces : List (List UInt8)) (flushing : Bool) :
    AcceptsAll (emit w pieces flushing).2 := by
  have hwrite := (h.writePieces pieces).2
  rcases snd_emit w pieces flushing with hemit | hemit
  . rw [hemit]
    exact hwrite
  . rw [hemit]
    exact hwrite.ask .flush

end AcceptsAll

end Sink

end IntConsole
