import IntConsole.Proofs.Stream.Writing

/-!
This module contains the account of an output over any number of writes and flushes. The main
statements are that accounts add up, and that one text written with or without a flush behind it has
the account that it should have.
-/

namespace IntConsole

namespace Output

def lacksRoom (o : Output) (n : Nat) : Bool :=
  o.room.any (· < n)

def failsFlush (o : Output) (n : Nat) : Bool :=
  o.flushesLeft.any (· ≤ n)

/--
The output `o` has turned into `o'` by being offered the bytes `bs` and being asked to flush `n`
times.
-/
structure Receives (o : Output) (bs : List UInt8) (n : Nat) (o' : Output) : Prop where
  accepted_eq : o'.accepted = o.accepted ++ bs.take (o.taken bs.length)
  room_eq : o'.room = o.room.map (· - bs.length)
  refusal_eq : o'.refusal = o.refusal
  flushFault_eq : o'.flushFault = o.flushFault
  flushesLeft_eq : o'.flushesLeft = o.flushesLeft.map (· - n)
  flushAttempts_eq : o'.flushAttempts = o.flushAttempts + n

theorem taken_eq_iff (o : Output) (n : Nat) : o.taken n = n ↔ o.lacksRoom n = false := by
  unfold taken lacksRoom
  cases o.room with
  | none => simp
  | some room =>
    simp only [Option.elim_some, Option.any_some, decide_eq_false_iff_not]
    omega

theorem take_taken_append {o o' : Output} {bs : List UInt8}
    (h : o'.room = o.room.map (· - bs.length)) (cs : List UInt8) :
    (bs ++ cs).take (o.taken (bs ++ cs).length)
      =
    bs.take (o.taken bs.length) ++ cs.take (o'.taken cs.length) := by
  unfold taken
  rw [h, List.length_append, List.take_append]
  cases o.room with
  | none =>
    simp only [Option.map_none, Option.elim_none, Nat.add_sub_cancel_left]
    rw [List.take_of_length_le (Nat.le_add_right _ _), List.take_length, List.take_length]
  | some room =>
    simp only [Option.map_some, Option.elim_some]
    -- A front that runs past the end of a list is the whole of it.
    have hbs : bs.take (min (bs.length + cs.length) room) = bs.take (min bs.length room) := by
      rw [List.take_eq_take_iff]
      omega
    have hcs : min (bs.length + cs.length) room - bs.length = min cs.length (room - bs.length) := by
      omega
    rw [hbs, hcs]

namespace Receives

theorem refl (o : Output) : o.Receives [] 0 o where
  accepted_eq := by simp
  room_eq := by simp
  refusal_eq := rfl
  flushFault_eq := rfl
  flushesLeft_eq := by simp
  flushAttempts_eq := rfl

theorem trans {o o' o'' : Output} {bs cs : List UInt8} {n m : Nat} (h : o.Receives bs n o')
    (h' : o'.Receives cs m o'') : o.Receives (bs ++ cs) (n + m) o'' where
  accepted_eq := by
    rw [h'.accepted_eq, h.accepted_eq, take_taken_append h.room_eq, List.append_assoc]
  room_eq := by
    rw [h'.room_eq, h.room_eq, Option.map_map, List.length_append]
    congr 1
    funext room
    exact Nat.sub_sub room bs.length cs.length
  refusal_eq := h'.refusal_eq.trans h.refusal_eq
  flushFault_eq := h'.flushFault_eq.trans h.flushFault_eq
  flushesLeft_eq := by
    rw [h'.flushesLeft_eq, h.flushesLeft_eq, Option.map_map]
    congr 1
    funext left
    exact Nat.sub_sub left n m
  flushAttempts_eq := by
    rw [h'.flushAttempts_eq, h.flushAttempts_eq, Nat.add_assoc]

variable {o o' : Output} {bs : List UInt8} {n : Nat} (h : o.Receives bs n o')
include h

theorem refusalFailure_eq : o'.refusalFailure = o.refusalFailure := by
  rw [refusalFailure, refusalFailure, h.refusal_eq]

theorem failsFlush_eq (m : Nat) : o'.failsFlush m = o.failsFlush (n + m) := by
  unfold failsFlush
  rw [h.flushesLeft_eq, Option.any_map]
  congr 1
  funext left
  rw [decide_eq_decide]
  omega

theorem lacksRoom_iff (cs : List UInt8) :
    o'.lacksRoom cs.length = true ↔ cs ≠ [] ∧ o.lacksRoom (bs ++ cs).length = true := by
  unfold lacksRoom
  rw [h.room_eq]
  cases o.room with
  | none => simp
  | some room =>
    have hcs : cs ≠ [] ↔ 0 < cs.length := List.length_pos_iff.symm
    simp only [Option.map_some, Option.any_some, decide_eq_true_eq, List.length_append, hcs]
    omega

end Receives

theorem receives_accept (o : Output) (bs : List UInt8) :
    o.Receives bs 0 (o.accept bs (o.taken bs.length)) := by
  constructor
  . rfl
  . rw [accept, taken]
    cases o.room with
    | none => rfl
    | some room =>
      simp only [Option.map_some, Option.elim_some, Option.some.injEq]
      omega
  . rfl
  . rfl
  . rw [accept]
    simp
  . rfl

theorem fst_flush (o : Output) :
    o.flush.1 = if o.failsFlush 0 then some o.flushFault else none := by
  unfold flush failsFlush
  dsimp only
  split <;> simp_all

theorem flushes_flush (o : Output) :
    o.flush.2.flushes = o.flushes + if o.failsFlush 0 then 0 else 1 := by
  unfold flush failsFlush
  dsimp only
  split <;> simp_all

theorem receives_flush (o : Output) : o.Receives [] 1 o.flush.2 := by
  unfold flush
  dsimp only
  split
  all_goals
    constructor <;> simp_all

section

variable {o o' : Output} {bs : List UInt8} (h : o.Receives bs 0 o')
include h

theorem Receives.taken_append (cs : List UInt8) :
    o.taken (bs ++ cs).length = o.taken bs.length + o'.taken cs.length := by
  unfold taken
  rw [h.room_eq, List.length_append]
  cases o.room with
  | none => rfl
  | some room =>
    simp only [Option.map_some, Option.elim_some]
    omega

theorem Receives.taken_eq_zero (hlacks : o.lacksRoom bs.length = true) (n : Nat) :
    o'.taken n = 0 := by
  unfold lacksRoom at hlacks
  unfold taken
  rw [h.room_eq]
  cases hroom : o.room with
  | none =>
    rw [hroom] at hlacks
    cases hlacks
  | some room =>
    rw [hroom, Option.any_some, decide_eq_true_eq] at hlacks
    simp only [Option.map_some, Option.elim_some]
    omega

end

theorem accept_zero (o : Output) (bs : List UInt8) : o.accept bs 0 = o := by
  simp [accept]

theorem accept_append (o : Output) (bs cs : List UInt8) :
    let o' := o.accept bs (o.taken bs.length)
    o.accept (bs ++ cs) (o.taken (bs ++ cs).length) = o'.accept cs (o'.taken cs.length) := by
  intro o'
  have h : o.Receives bs 0 o' := o.receives_accept bs
  unfold accept
  rw [take_taken_append h.room_eq, h.taken_append]
  simp only [o', accept, List.append_assoc, Option.map_map]
  congr 2
  funext room
  exact (Nat.sub_sub room _ _).symm

theorem writePieces_eq (o : Output) (pieces : List (List UInt8)) :
    Sink.writePieces o pieces = o.writeAll pieces.flatten := by
  induction pieces generalizing o with
  | nil => rw [Sink.writePieces, List.flatten_nil, writeAll]
  | cons piece pieces ih =>
    have h := o.receives_accept piece
    have hpiece : Sink.writeAll o piece
        = (if o.taken piece.length = piece.length then none else some o.refusalFailure,
          o.accept piece (o.taken piece.length)) := o.writeAll_eq piece
    rw [writeAll_eq, List.flatten_cons, accept_append, h.taken_append]
    by_cases hall : o.taken piece.length = piece.length
    . -- All of this piece is taken, and the room that it leaves decides about the others.
      rw [if_pos hall] at hpiece
      rw [Sink.writePieces_cons_of_none (by rw [hpiece]), hpiece, ih, writeAll_eq,
        h.refusalFailure_eq, hall]
      simp only [List.length_append, Nat.add_left_cancel_iff]
    . -- No room is left behind this piece, so that nothing of the others would be taken either.
      have hlacks : o.lacksRoom piece.length = true := by
        simpa only [taken_eq_iff, Bool.not_eq_false] using hall
      have htaken := o.taken_le piece.length
      rw [if_neg hall] at hpiece
      rw [Sink.writePieces_cons_of_some (by rw [hpiece]), hpiece, h.taken_eq_zero hlacks,
        accept_zero, if_neg]
      rw [List.length_append]
      omega

section

variable (o : Output) (pieces : List (List UInt8))

theorem emit_eq (flushing : Bool) :
    Sink.emit o pieces flushing
      =
    if o.lacksRoom pieces.flatten.length then
      (some o.refusalFailure, o.accept pieces.flatten (o.taken pieces.flatten.length))
    else if flushing then
      let o := o.accept pieces.flatten (o.taken pieces.flatten.length)
      (o.flush.1.map .fault, o.flush.2)
    else
      (none, o.accept pieces.flatten (o.taken pieces.flatten.length)) := by
  rw [Sink.emit, writePieces_eq, writeAll_eq]
  cases hroom : o.lacksRoom pieces.flatten.length with
  | true =>
    have htaken : ¬ o.taken pieces.flatten.length = pieces.flatten.length := by
      rw [taken_eq_iff, hroom]
      exact Bool.noConfusion
    rw [if_neg htaken]
    rfl
  | false =>
    rw [if_pos ((o.taken_eq_iff pieces.flatten.length).2 hroom)]
    rfl

theorem fst_emit (flushing : Bool) :
    (Sink.emit o pieces flushing).1
      =
    if o.lacksRoom pieces.flatten.length then
      some o.refusalFailure
    else if flushing && o.failsFlush 0 then
      some (.fault o.flushFault)
    else
      none := by
  rw [emit_eq]
  cases o.lacksRoom pieces.flatten.length with
  | true => rfl
  | false =>
    cases flushing with
    | false => rfl
    | true =>
      change (flush _).1.map _ = _
      rw [fst_flush]
      change (if o.failsFlush 0 then some o.flushFault else none).map _ = _
      cases o.failsFlush 0 <;> rfl

theorem receives_emit (flushing : Bool) :
    o.Receives pieces.flatten (if flushing && !o.lacksRoom pieces.flatten.length then 1 else 0)
      (Sink.emit o pieces flushing).2 := by
  have haccept := o.receives_accept pieces.flatten
  rw [emit_eq]
  cases o.lacksRoom pieces.flatten.length with
  | true =>
    rw [Bool.not_true, Bool.and_false]
    exact haccept
  | false =>
    cases flushing with
    | false => exact haccept
    | true =>
      have hflush := haccept.trans (receives_flush _)
      rw [List.append_nil] at hflush
      exact hflush

theorem flushes_emit (flushing : Bool) :
    (Sink.emit o pieces flushing).2.flushes
      =
    o.flushes
      + if flushing && !o.lacksRoom pieces.flatten.length && !o.failsFlush 0 then 1 else 0 := by
  rw [emit_eq]
  cases o.lacksRoom pieces.flatten.length with
  | true =>
    rw [Bool.not_true, Bool.and_false]
    rfl
  | false =>
    cases flushing with
    | false => rfl
    | true =>
      change (flush _).2.flushes = _
      rw [flushes_flush]
      change o.flushes + (if o.failsFlush 0 then 0 else 1) = _
      cases o.failsFlush 0 <;> rfl

end

end Output

end IntConsole
