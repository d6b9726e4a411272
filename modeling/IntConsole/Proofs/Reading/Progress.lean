import IntConsole.Proofs.Reading.Intake
import IntConsole.Proofs.Reading.Layout

/-!
This module contains what becomes of an input from which integers are read again and again. A read
takes at least one byte unless the next one, if there is any, is neither white space nor a sign nor
a digit, and such a byte stops all later reads as well. The main statement is that no more reads
than there are bytes lead to this state, and that nothing changes any more from there on.
-/

namespace IntConsole

/--
The first byte of the text, if there is one, cannot belong to white space or a numeral.
-/
def Stuck (bs : List UInt8) : Prop :=
  ∀ b, bs.head? = some b →
    Byte.isSpace b = false ∧ Sign.ofByte? b = none ∧ Byte.isDigit b = false

namespace Stuck

theorem of_length_rest {bs : List UInt8} (h : bs.length ≤ (Layout.of bs).rest.length) :
    Stuck bs := by
  have hsplits := Layout.splits_of bs
  have hlength := congrArg List.length hsplits.bytes_eq
  simp only [List.length_append] at hlength
  have hbytes : (Layout.of bs).numeral.bytes = [] := by
    apply List.eq_nil_of_length_eq_zero
    omega
  have hblank : (Layout.of bs).blank = [] := by
    apply List.eq_nil_of_length_eq_zero
    omega
  have hrest : bs = (Layout.of bs).rest := by simpa [hblank, hbytes] using hsplits.bytes_eq
  obtain ⟨hsign, hdigits⟩ := List.append_eq_nil_iff.1 hbytes
  intro b hb
  refine ⟨?_, ?_, ?_⟩
  . apply hsplits.blank_longest
    rw [hbytes, List.nil_append, ← hrest]
    exact hb
  . apply hsplits.sign_taken
    . simpa using hsign
    . rw [hdigits, List.nil_append, ← hrest]
      exact hb
  . apply hsplits.digits_longest
    rw [← hrest]
    exact hb

theorem length_rest_lt {bs : List UInt8} (h : ¬Stuck bs) :
    (Layout.of bs).rest.length < bs.length := by
  apply Nat.lt_of_not_le
  intro hle
  exact h (of_length_rest hle)

theorem layout_eq {bs : List UInt8} (h : Stuck bs) : Layout.of bs = ⟨[], ⟨none, []⟩, bs⟩ := by
  symm
  apply Layout.Splits.eq_of
  constructor
  . rfl
  . simp
  . intro b hb
    exact (h b hb).1
  . intro _ b hb
    exact (h b hb).2.1
  . simp
  . intro b hb
    exact (h b hb).2.2

end Stuck

namespace Input

theorem readInts_add (s : Input) (k j : Nat) :
    (s.readInts (k + j)).2 = ((s.readInts k).2.readInts j).2 := by
  induction k generalizing s with
  | zero => rw [Nat.zero_add, readInts]
  | succ k ih =>
    rw [Nat.succ_add]
    exact ih s.readInt.2

theorem readInts_succ (s : Input) (k : Nat) :
    (s.readInts (k + 1)).2 = (s.readInts k).2.readInt.2 :=
  s.readInts_add k 1

section

variable {s : Input} {bs : List UInt8} (h : s.Serves bs)
include h

theorem Serves.position_readInt :
    s.readInt.2.position + (Layout.of bs).rest.length = s.position + bs.length := by
  obtain ⟨i, hi⟩ := s.exists_explains_readInt
  have hposition := hi.consumes.position_add_length_data
  rw [h.readInt_eq.2.data_eq, h.data_eq] at hposition
  exact hposition

theorem Serves.stuck_of_position_eq (hposition : s.readInt.2.position = s.position) :
    Stuck bs := by
  have := h.position_readInt
  apply Stuck.of_length_rest
  omega

theorem Serves.exists_serves_readInts (k : Nat) : ∃ cs, (s.readInts k).2.Serves cs := by
  induction k generalizing s bs with
  | zero => exact ⟨bs, h⟩
  | succ k ih => exact ih h.readInt_eq.2

variable (hstuck : Stuck bs)
include hstuck

theorem Serves.readInts_of_stuck (j : Nat) :
    (s.readInts j).2.Serves bs ∧ (s.readInts j).2.position = s.position := by
  induction j generalizing s with
  | zero => exact ⟨h, rfl⟩
  | succ j ih =>
    have hnext := h.readInt_eq.2
    have hposition := h.position_readInt
    rw [hstuck.layout_eq] at hnext hposition
    obtain ⟨hserves, heq⟩ := ih hnext
    refine ⟨hserves, heq.trans ?_⟩
    exact Nat.add_right_cancel hposition

theorem Serves.readInt_of_stuck :
    (s.readInt.1 = .error .endOfInput ∧ s.data = [])
      ∨ ∃ b, s.readInt.1 = .error (.malformed b) ∧ s.data.head? = some b
          ∧ Byte.isSpace b = false ∧ Sign.ofByte? b = none ∧ Byte.isDigit b = false := by
  have hresult := h.readInt_eq.1
  rw [hstuck.layout_eq] at hresult
  rw [hresult, h.data_eq]
  cases bs with
  | nil => exact .inl ⟨rfl, rfl⟩
  | cons b rest => exact .inr ⟨b, rfl, rfl, hstuck b rfl⟩

theorem Serves.constant_of_stuck (j : Nat) :
    (s.readInts j).2.readInt.1 = s.readInt.1
      ∧ (s.readInts (j + 1)).2.position = (s.readInts j).2.position
      ∧ (s.readInts (j + 1)).2.data = (s.readInts j).2.data := by
  obtain ⟨hserves, hposition⟩ := h.readInts_of_stuck hstuck j
  obtain ⟨hserves', hposition'⟩ := h.readInts_of_stuck hstuck (j + 1)
  refine ⟨?_, ?_, ?_⟩
  . rw [hserves.readInt_eq.1, h.readInt_eq.1]
  . rw [hposition, hposition']
  . rw [hserves.data_eq, hserves'.data_eq]

end

theorem Serves.exists_stuck {s : Input} {bs : List UInt8} (h : s.Serves bs) :
    ∃ k, k ≤ bs.length ∧ ∃ cs, (s.readInts k).2.Serves cs ∧ Stuck cs := by
  -- The number of bytes that are left falls with every read that is not stuck.
  by_cases hstuck : Stuck bs
  . exact ⟨0, Nat.zero_le _, bs, h, hstuck⟩
  . have hlt := Stuck.length_rest_lt hstuck
    obtain ⟨k, hk, hcs⟩ := h.readInt_eq.2.exists_stuck
    exact ⟨k + 1, by omega, hcs⟩
termination_by bs.length
decreasing_by exact hlt

theorem Serves.constant_of_le {s : Input} {cs : List UInt8} {k : Nat}
    (h : (s.readInts k).2.Serves cs) (hstuck : Stuck cs) (j : Nat) (hj : k ≤ j) :
    (s.readInts j).2.readInt.1 = (s.readInts k).2.readInt.1
      ∧ (s.readInts (j + 1)).2.position = (s.readInts j).2.position
      ∧ (s.readInts (j + 1)).2.data = (s.readInts j).2.data := by
  obtain ⟨i, rfl⟩ := Nat.exists_eq_add_of_le hj
  rw [Nat.add_assoc, readInts_add, readInts_add]
  exact h.constant_of_stuck hstuck i

/--
Any number of reads from a text that is served to its final end. A read that takes no byte finds the
input exhausted or a byte that it cannot take, and so do all reads after it, with the same result.
When there have been more reads than bytes, one of them took no byte.
-/
theorem readInts_constant_of_serves {s : Input} {bs : List UInt8} (h : s.Serves bs) :
    (∀ k, (s.readInts (k + 1)).2.position = (s.readInts k).2.position →
        (((s.readInts k).2.readInt.1 = .error .endOfInput ∧ (s.readInts k).2.data = [])
          ∨ ∃ b, (s.readInts k).2.readInt.1 = .error (.malformed b)
              ∧ (s.readInts k).2.data.head? = some b
              ∧ Byte.isSpace b = false ∧ Sign.ofByte? b = none ∧ Byte.isDigit b = false)
          ∧ ∀ j, k ≤ j →
              (s.readInts j).2.readInt.1 = (s.readInts k).2.readInt.1
                ∧ (s.readInts (j + 1)).2.position = (s.readInts j).2.position
                ∧ (s.readInts (j + 1)).2.data = (s.readInts j).2.data)
      ∧ ∃ k, k ≤ bs.length ∧ (s.readInts (k + 1)).2.position = (s.readInts k).2.position
          ∧ ∀ j, k ≤ j → (s.readInts j).2.readInt.1 = (s.readInts k).2.readInt.1 := by
  constructor
  . intro k hposition
    obtain ⟨cs, hserves⟩ := h.exists_serves_readInts k
    rw [readInts_succ] at hposition
    have hstuck := hserves.stuck_of_position_eq hposition
    exact ⟨hserves.readInt_of_stuck hstuck, hserves.constant_of_le hstuck⟩
  . obtain ⟨k, hk, cs, hserves, hstuck⟩ := h.exists_stuck
    have hconstant := hserves.constant_of_le hstuck
    refine ⟨k, hk, (hconstant k (Nat.le_refl k)).2.1, ?_⟩
    intro j hj
    exact (hconstant j hj).1

theorem readInts_constant_of_serves_letter :
    let s : Input := ofBytes [45, 45, 55, 120]
    s.Serves [45, 45, 55, 120]
      ∧ (s.readInts (2 + 1)).2.position = (s.readInts 2).2.position
      ∧ ∀ j, 2 ≤ j → (s.readInts j).2.readInt.1 = .error (.malformed 120) := by
  intro s
  have hserves : s.Serves [45, 45, 55, 120] := by
    rw [serves_iff]
    rfl
  have hposition : (s.readInts (2 + 1)).2.position = (s.readInts 2).2.position := by decide
  refine ⟨hserves, hposition, ?_⟩
  intro j hj
  have hconstant := ((readInts_constant_of_serves hserves).1 2 hposition).2 j hj
  rw [hconstant.1]
  decide

end Input

end IntConsole
