import IntConsole.Proofs.Stream.Accepting
import IntConsole.Stream.Output

/-!
This module contains what writing comes to on an output of limited room that may take its bytes in
small portions. The main statement is that the portions do not show: the bytes for which there is
room are accepted, and the text fails exactly when there is not enough room for all of it.
-/

namespace IntConsole

namespace Output

def taken (o : Output) (n : Nat) : Nat :=
  o.room.elim n (min n)

def refusalFailure (o : Output) : WriteFailure :=
  o.refusal.elim .stalled fun f => .fault f

def accept (o : Output) (bs : List UInt8) (n : Nat) : Output :=
  { o with accepted := o.accepted ++ bs.take n, room := o.room.map (· - n) }

theorem taken_le (o : Output) (n : Nat) : o.taken n ≤ n := by
  unfold taken
  cases o.room with
  | none => exact Nat.le_refl n
  | some room => exact Nat.min_le_left n room

theorem capacity_le_taken (o : Output) (n : Nat) : o.capacity n ≤ o.taken n :=
  Nat.min_le_left _ _

theorem taken_eq_zero_of_capacity {o : Output} {n : Nat} (hn : 0 < n) (h : o.capacity n = 0) :
    o.taken n = 0 := by
  unfold capacity at h
  unfold taken
  cases hper : o.perWrite with
  | none =>
    rw [hper, Option.elim_none] at h
    have := o.taken_le n
    unfold taken at this
    omega
  | some portion =>
    have := portion.property
    rw [hper, Option.elim_some] at h
    omega

theorem room_of_taken_eq_zero {o : Output} {n : Nat} (hn : 0 < n) (h : o.taken n = 0) :
    o.room = some 0 := by
  unfold taken at h
  cases hroom : o.room with
  | none =>
    rw [hroom, Option.elim_none] at h
    omega
  | some room =>
    rw [hroom, Option.elim_some] at h
    congr 1
    omega

theorem write_eq (o : Output) (bs : List UInt8) :
    (o.room = some 0 ∧ ∃ f, o.refusal = some f ∧ o.write bs = (.error f.val, o))
      ∨ (o.room = some 0 → o.refusal = none)
        ∧ o.write bs = (.ok (o.capacity bs.length), o.accept bs (o.capacity bs.length)) := by
  unfold write
  split
  . next f hroom hrefusal => exact .inl ⟨hroom, f, hrefusal, rfl⟩
  . next hnot =>
    refine .inr ⟨?_, rfl⟩
    intro hroom
    cases hrefusal : o.refusal with
    | none => rfl
    | some f => exact absurd hrefusal (hnot f hroom)

theorem taken_accept (o : Output) (bs : List UInt8) (n m : Nat) :
    (o.accept bs n).taken (m - n) = o.taken m - n := by
  unfold taken accept
  cases o.room with
  | none => rfl
  | some room =>
    simp only [Option.map_some, Option.elim_some]
    omega

theorem accept_accept (o : Output) (bs : List UInt8) (n m : Nat) :
    (o.accept bs n).accept (bs.drop n) m = o.accept bs (n + m) := by
  unfold accept
  simp only [List.append_assoc, Option.map_map, List.take_add]
  congr 2
  funext room
  simp only [Function.comp_apply]
  omega

theorem writeAll_eq (o : Output) (bs : List UInt8) :
    o.writeAll bs
      =
    (if o.taken bs.length = bs.length then none else some o.refusalFailure,
      o.accept bs (o.taken bs.length)) := by
  fun_induction writeAll o bs with
  | case1 o =>
    have htaken : o.taken 0 = 0 := Nat.le_zero.1 (o.taken_le 0)
    rw [List.length_nil, htaken, if_pos rfl]
    simp [accept]
  | case2 o b rest f o' h =>
    obtain ⟨hroom, f', hrefusal, heq⟩ | ⟨-, heq⟩ := o.write_eq (b :: rest)
    . rw [heq] at h
      cases h
      have htaken : o.taken (b :: rest).length = 0 := by simp [taken, hroom]
      rw [htaken, if_neg (by simp), refusalFailure, hrefusal]
      simp [accept]
    . rw [heq] at h
      cases h
  | case3 o b rest o' h =>
    -- A write that takes nothing has no room left, since a portion is never empty.
    obtain ⟨-, f', -, heq⟩ | ⟨hstalled, heq⟩ := o.write_eq (b :: rest)
    . rw [heq] at h
      cases h
    . rw [heq] at h
      have hcapacity : o.capacity (b :: rest).length = 0 := by
        injection h with hcount
        injection hcount
      have htaken := taken_eq_zero_of_capacity (by simp) hcapacity
      have hrefusal := hstalled (room_of_taken_eq_zero (by simp) htaken)
      rw [hcapacity] at h
      cases h
      rw [htaken, if_neg (by simp), refusalFailure, hrefusal]
      rfl
  | case4 o b rest n o' h ih =>
    obtain ⟨-, f', -, heq⟩ | ⟨-, heq⟩ := o.write_eq (b :: rest)
    . rw [heq] at h
      cases h
    . rw [heq] at h
      have hcapacity : o.capacity (b :: rest).length = n + 1 := by
        injection h with hcount
        injection hcount
      have hle : n + 1 ≤ o.taken (b :: rest).length := by
        rw [← hcapacity]
        exact o.capacity_le_taken _
      rw [hcapacity] at h
      cases h
      -- What the first portion and the rest of the text take adds up to what there is room for.
      have hdrop : rest.drop n = (b :: rest).drop (n + 1) := rfl
      rw [ih, hdrop, List.length_drop, taken_accept, accept_accept, Nat.add_sub_cancel' hle]
      congr 1
      have htaken := o.taken_le (b :: rest).length
      by_cases hall : o.taken (b :: rest).length = (b :: rest).length
      . rw [if_pos hall, if_pos (by omega)]
      . rw [if_neg hall, if_neg (by omega)]
        rfl

theorem acceptsAll {o : Output} (hroom : o.room = none) : Sink.AcceptsAll o := by
  apply Sink.acceptsAll_of_invariant (P := fun o : Output => o.room = none)
  . rintro o (bs | _) hroom
    . change (o.writeAll bs).2.room = none
      rw [writeAll_eq, accept, hroom]
      rfl
    . change o.flush.2.room = none
      unfold flush
      dsimp only
      split <;> exact hroom
  . intro o bs hroom
    change (o.writeAll bs).2.accepted = o.accepted ++ bs
    have htaken : o.taken bs.length = bs.length := by rw [taken, hroom, Option.elim_none]
    rw [writeAll_eq, htaken, accept, List.take_length]
  . exact hroom

end Output

end IntConsole
