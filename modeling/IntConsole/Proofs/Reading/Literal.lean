import IntConsole.Proofs.Reading.Intake
import IntConsole.Proofs.Reading.Layout

/-!
This module contains what is told about a numeral that does not fit into 64 bits. The digits that
are kept of it begin with no zero, so if some are left out, those that are kept denote an integer
out of range all the same. The main statement is that the literal in the failure consists of them
and that reading it fails with a literal again.
-/

namespace IntConsole

namespace Numeral

variable {n : Numeral}

theorem significant_ne_nil (h : ¬Fits n.value) : n.significant ≠ [] := by
  intro hnil
  apply h
  rw [value_eq_apply, ← magnitude_significant, hnil]
  apply fits_apply_zero

theorem significant_kept (n : Numeral) : n.kept.significant = n.kept.digits := by
  have hhead := List.head?_dropWhile_not (· == (48 : UInt8)) n.digits
  unfold significant kept significant
  dsimp only
  cases hdigits : n.digits.dropWhile (· == 48) with
  | nil => rfl
  | cons b digits =>
    rw [hdigits] at hhead
    rw [maxSignificant, List.take_succ_cons, List.dropWhile_cons_of_neg]
    simpa using hhead

theorem length_significant_kept (n : Numeral) :
    n.kept.significant.length = min maxSignificant n.significant.length := by
  rw [significant_kept]
  apply List.length_take

theorem kept_eq_of_length_le (h : n.significant.length ≤ maxSignificant) :
    n.kept = ⟨n.sign, n.significant⟩ := by
  unfold kept
  rw [List.take_of_length_le h]

theorem kept_kept (n : Numeral) : n.kept.kept = n.kept := by
  have hlength := length_significant_kept n
  rw [kept_eq_of_length_le (n := n.kept) (by omega), significant_kept]

theorem isDigit_of_mem_kept (hdigits : ∀ b ∈ n.digits, Byte.isDigit b = true) :
    ∀ b ∈ n.kept.digits, Byte.isDigit b = true := by
  intro b hb
  apply isDigit_of_mem_significant hdigits
  exact List.mem_of_mem_take hb

theorem not_fits_kept (hdigits : ∀ b ∈ n.digits, Byte.isDigit b = true) (h : ¬Fits n.value) :
    ¬Fits n.kept.value := by
  by_cases hlength : n.significant.length ≤ maxSignificant
  . rw [kept_eq_of_length_le hlength, value_eq_apply, magnitude_significant]
    exact h
  . -- As many digits as are kept at most are too many when the first one is no zero.
    apply not_fits_of_maxSignificant_le (isDigit_of_mem_kept hdigits)
    rw [length_significant_kept]
    omega

theorem literal_eq (h : ¬Fits n.value) :
    n.literal
      =
    Text.ofAscii n.kept.bytes ++ if n.significant.length ≤ maxSignificant then "" else "..." := by
  unfold literal
  split
  . next hlength =>
    have hempty : n.significant.isEmpty = false :=
      List.isEmpty_eq_false_iff.2 (significant_ne_nil h)
    rw [kept_eq_of_length_le hlength, stripped, hempty]
    simp
  . rfl

theorem literal_kept (hdigits : ∀ b ∈ n.digits, Byte.isDigit b = true) (h : ¬Fits n.value) :
    n.kept.literal = Text.ofAscii n.kept.bytes := by
  have hlength := length_significant_kept n
  rw [literal_eq (not_fits_kept hdigits h), kept_kept, if_pos (by omega), String.append_empty]

theorem length_literal_le (h : ¬Fits n.value) : n.literal.length ≤ 24 := by
  have hbytes := length_bytes_le n.kept
  have hkept := length_significant_kept n
  rw [significant_kept, maxSignificant] at hkept
  rw [literal_eq h, String.length_append, Text.length_ofAscii]
  split
  . simp
    omega
  . have hdots : "...".length = 3 := rfl
    omega

theorem bytes_literal (hdigits : ∀ b ∈ n.digits, Byte.isDigit b = true) (h : ¬Fits n.value) :
    Text.bytes n.literal
      =
    n.kept.bytes ++ if n.significant.length ≤ maxSignificant then [] else Text.bytes "..." := by
  have hkept : Text.bytes (Text.ofAscii n.kept.bytes) = n.kept.bytes := by
    apply Text.bytes_ofAscii
    intro b hb
    exact toNat_lt_of_mem_bytes (isDigit_of_mem_kept hdigits) hb
  rw [literal_eq h, Text.bytes_append, hkept]
  congr 1
  split
  . exact Text.bytes_empty
  . rfl

end Numeral

theorem Byte.isDigit_of_head?_dots {b : UInt8} (h : (Text.bytes "...").head? = some b) :
    isDigit b = false := by
  cases h
  rfl

namespace Intake

variable {s t : Input} {result : Except ReadFailure Int64}

theorem Explains.splits {i : Intake} (h : i.Explains s result t) (hne : i.numeral.digits ≠ []) :
    Layout.Splits ⟨i.blank, i.numeral, []⟩ i.bytes := by
  have hsplits : Layout.Splits ⟨i.blank, i.numeral, []⟩ (i.blank ++ (i.numeral.bytes ++ [])) := by
    apply Layout.splits_numeral h.isSpace_of_mem_blank hne h.isDigit_of_mem_digits
    simp
  rw [List.append_nil] at hsplits
  exact hsplits

theorem Explains.unique {i j : Intake} (hi : i.Explains s result t) (hj : j.Explains s result t)
    (hne : i.numeral.digits ≠ []) (hne' : j.numeral.digits ≠ []) : j = i := by
  obtain ⟨hbytes, hevents⟩ := hj.consumes.unique hi.consumes
  have hlayout := (hj.splits hne').eq_of
  rw [hbytes, ← (hi.splits hne).eq_of] at hlayout
  rcases i with ⟨blank, numeral, events⟩
  rcases j with ⟨blank', numeral', events'⟩
  cases hlayout
  cases hevents
  rfl

end Intake

namespace Input

theorem Serves.readInt_literal {s : Input} {n : Numeral}
    (hdigits : ∀ b ∈ n.digits, Byte.isDigit b = true) (hfits : ¬Numeral.Fits n.value)
    (h : s.Serves (Text.bytes n.literal)) :
    s.readInt.1 = .error (.outOfRange (Text.ofAscii n.kept.bytes))
      ∧ s.readInt.2.Serves
          (if n.significant.length ≤ Numeral.maxSignificant then [] else Text.bytes "...") := by
  have hkept := Numeral.isDigit_of_mem_kept hdigits
  have hne : n.kept.digits ≠ [] := by
    rw [← Numeral.significant_kept]
    exact Numeral.significant_ne_nil (Numeral.not_fits_kept hdigits hfits)
  rw [Numeral.bytes_literal hdigits hfits] at h
  have hstop : ∀ b,
      (if n.significant.length ≤ Numeral.maxSignificant then [] else Text.bytes "...").head? = some b
        → Byte.isDigit b = false := by
    intro b hb
    split at hb
    . cases hb
    . exact Byte.isDigit_of_head?_dots hb
  obtain ⟨hresult, hrest⟩ := h.readInt_numeral hne hkept hstop
  refine ⟨?_, hrest⟩
  rw [hresult, Numeral.toInt64_eq_error hkept]
  exact ⟨Numeral.not_fits_kept hdigits hfits, by rw [Numeral.literal_kept hdigits hfits]⟩

/--
The literal that a read reports of an integer out of range consists of the sign and the significant
digits that the read has taken, cut behind the twentieth one. What stands there denotes an integer
out of range as well, so that reading the literal fails in the same way.
-/
theorem readInt_outOfRange {s : Input} {literal : String}
    (h : s.readInt.1 = .error (.outOfRange literal)) :
    ∃ i : Intake, i.Explains s (.error (.outOfRange literal)) s.readInt.2
      ∧ (∀ j : Intake, j.Explains s (.error (.outOfRange literal)) s.readInt.2 → j = i)
      ∧ let g := i.numeral.sign
        let z := i.numeral.significant
        (z.length ≤ 20 → literal = Text.ofAscii (Numeral.mk g z).bytes)
          ∧ (20 < z.length → literal = Text.ofAscii (Numeral.mk g (z.take 20)).bytes ++ "...")
          ∧ literal.length ≤ 24
          ∧ ¬Numeral.Fits (Numeral.mk g (z.take 20)).value
          ∧ ∀ t : Input, t.Serves (Text.bytes literal) →
              t.readInt.1
                  = .error (.outOfRange (Text.ofAscii (Numeral.mk g (z.take 20)).bytes))
                ∧ t.readInt.2.Serves (if z.length ≤ 20 then [] else Text.bytes "...") := by
  obtain ⟨i, hi, hnames⟩ := s.exists_explains_names_readInt
  have hliteral : literal = i.numeral.literal := hnames literal h
  rw [h] at hi
  obtain ⟨hne, hfits, -⟩ := hi.tells
  have hdigits := hi.isDigit_of_mem_digits
  refine ⟨i, hi, fun j hj => hi.unique hj hne hj.tells.1, ?_⟩
  have heq := Numeral.literal_eq hfits
  refine ⟨?_, ?_, ?_, ?_, ?_⟩
  . intro (hlength : i.numeral.significant.length ≤ Numeral.maxSignificant)
    rw [hliteral, heq, if_pos hlength, Numeral.kept_eq_of_length_le hlength, String.append_empty]
  . intro (hlength : Numeral.maxSignificant < i.numeral.significant.length)
    rw [hliteral, heq, if_neg (Nat.not_le_of_lt hlength)]
    rfl
  . rw [hliteral]
    exact Numeral.length_literal_le hfits
  . exact Numeral.not_fits_kept hdigits hfits
  . intro t ht
    rw [hliteral] at ht
    exact ht.readInt_literal hdigits hfits

/--
Of twenty-one digits behind two zeros the last one is left out, and what the ones before it denote
is out of range, too.
-/
theorem readInt_outOfRange_chunks :
    let s : Input := {
      chunk := [32, 45, 48]
      pending := [.data [48, 49, 50, 51, 52, 53, 54, 55, 56, 57, 48], .fault ⟨.interrupted, none⟩,
        .data [49, 50, 51, 52, 53, 54, 55, 56, 57, 48, 49]]
    }
    s.readInt.1 = .error (.outOfRange "-12345678901234567890...")
      ∧ ∀ t : Input, t.Serves (Text.bytes "-12345678901234567890...") →
          t.readInt.1 = .error (.outOfRange "-12345678901234567890")
            ∧ t.readInt.2.Serves (Text.bytes "...") := by
  intro s
  have h : s.readInt.1 = .error (.outOfRange "-12345678901234567890...") := rfl
  obtain ⟨i, -, hunique, -, -, -, -, hreads⟩ := readInt_outOfRange h
  have hi : i = ⟨[32], ⟨some .minus, [48, 48, 49, 50, 51, 52, 53, 54, 55, 56, 57, 48, 49, 50, 51,
      52, 53, 54, 55, 56, 57, 48, 49]⟩, s.pending⟩ := by
    symm
    apply hunique
    constructor
    . constructor <;> rfl
    . decide +kernel
    . decide +kernel
    . exact ⟨by decide, by decide +kernel, rfl⟩
  rw [hi] at hreads
  exact ⟨h, hreads⟩

end Input

end IntConsole
