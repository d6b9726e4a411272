import IntConsole.Stream.Sink

/-!
This module contains output streams. An output may have room for a limited number of bytes, take
only part of what it is offered at once, and fail to flush.
-/

namespace IntConsole

structure Output where
  accepted : List UInt8 := []
  room : Option Nat := none
  perWrite : Option { n : Nat // 0 < n } := none
  /--
  The fault of a write for which no room is left. Without one, the write takes no byte. An
  interrupted write would be tried again, so that this fault is never an interruption.
  -/
  refusal : Option { f : Fault // f.kind ≠ .interrupted } := none
  flushesLeft : Option Nat := none
  flushFault : Fault := ⟨.other, none⟩
  flushAttempts : Nat := 0
  flushes : Nat := 0

namespace Output

def capacity (o : Output) (n : Nat) : Nat :=
  min (o.room.elim n (min n)) (o.perWrite.elim n fun portion => min n portion)

def write (o : Output) (bs : List UInt8) : Except Fault Nat × Output :=
  match o.room, o.refusal with
  | some 0, some f => (.error f, o)
  | _, _ =>
    let n := o.capacity bs.length
    (.ok n, { o with accepted := o.accepted ++ bs.take n, room := o.room.map (· - n) })

/--
Offer bytes until all of them are taken. A refusal is final, so that the rest is given up at the
first one.
-/
def writeAll (o : Output) (bs : List UInt8) : Option WriteFailure × Output :=
  match bs with
  | [] => (none, o)
  | b :: rest =>
    match o.write (b :: rest) with
    | (.error f, o) => (some (.fault f), o)
    | (.ok 0, o) => (some .stalled, o)
    | (.ok (n + 1), o) => writeAll o (rest.drop n)
termination_by bs.length
decreasing_by
  simp only [List.length_drop, List.length_cons]
  omega

def flush (o : Output) : Option Fault × Output :=
  let o := { o with flushAttempts := o.flushAttempts + 1 }
  match o.flushesLeft with
  | none => (none, { o with flushes := o.flushes + 1 })
  | some 0 => (some o.flushFault, o)
  | some (n + 1) => (none, { o with flushes := o.flushes + 1, flushesLeft := some n })

theorem accepted_write (o : Output) (bs : List UInt8) :
    (o.write bs).2.accepted = o.accepted ++ bs.take ((o.write bs).1.toOption.getD 0) := by
  unfold write
  split
  . exact (List.append_nil _).symm
  . rfl

theorem accepted_writeAll (o : Output) (bs : List UInt8) :
    ∃ n, (o.writeAll bs).2.accepted = o.accepted ++ bs.take n
      ∧ ((o.writeAll bs).1 = none ↔ bs.length ≤ n) := by
  fun_induction writeAll o bs with
  | case1 o => exact ⟨0, (List.append_nil _).symm, by simp⟩
  | case2 o b rest f o' h =>
    have hwrite := o.accepted_write (b :: rest)
    rw [h] at hwrite
    exact ⟨0, hwrite, by simp⟩
  | case3 o b rest o' h =>
    have hwrite := o.accepted_write (b :: rest)
    rw [h] at hwrite
    exact ⟨0, hwrite, by simp⟩
  | case4 o b rest n o' h ih =>
    have hwrite := o.accepted_write (b :: rest)
    rw [h] at hwrite
    obtain ⟨m, hrest, hnone⟩ := ih
    have hdrop : rest.drop n = (b :: rest).drop (n + 1) := rfl
    refine ⟨n + 1 + m, ?_, ?_⟩
    . rw [hrest, List.take_add, ← List.append_assoc, hdrop]
      exact congrArg (· ++ _) hwrite
    . rw [hnone, List.length_drop, List.length_cons]
      omega

@[simp]
theorem accepted_flush (o : Output) : o.flush.2.accepted = o.accepted := by
  unfold flush
  dsimp only
  split <;> rfl

@[default_instance]
instance : Sink Output where
  accepted := accepted
  flushes := flushes
  writeAll := writeAll
  flush := flush
  accepted_writeAll := accepted_writeAll
  accepted_flush := accepted_flush

end Output

end IntConsole
