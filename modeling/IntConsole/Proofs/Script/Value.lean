import IntConsole.Proofs.Reading.Layout
import IntConsole.Proofs.Script.Grammar

/-!
This module contains the comparison of the two ways to read an integer: as the value of a call and
from an input. The main statement is that a text is the value of a call exactly if a read of it
takes everything and skips nothing in front of the integer, and that both find the same integers out
of range.
-/

namespace IntConsole

theorem Layout.Splits.blank_eq_nil_iff {l : Layout} {text : List UInt8} (h : l.Splits text) :
    l.blank = [] ↔ ∀ b, text.head? = some b → Byte.isSpace b = false := by
  constructor
  . intro hblank b hb
    apply h.blank_longest
    rw [h.bytes_eq, hblank, List.nil_append] at hb
    exact hb
  . intro hspace
    cases hblank : l.blank with
    | nil => rfl
    | cons b blank =>
      have hb := h.isSpace_of_mem_blank b (by simp [hblank])
      rw [hspace b (by simp [h.bytes_eq, hblank])] at hb
      cases hb

theorem Numeral.Defect.ofSign_getD (sign : Option Sign) :
    ofSign (sign.getD .plus) = if sign = some .minus then .tooSmall else .tooLarge := by
  rcases sign with _ | _ | _ <;> rfl

theorem Numeral.spells_iff (n : Numeral) (text : List UInt8) :
    n.Spells text ↔ Layout.of text = ⟨[], n, []⟩ ∧ n.digits ≠ [] := by
  constructor
  . intro h
    refine ⟨?_, h.digits_ne_nil⟩
    rw [h.bytes_eq, ← List.append_nil n.bytes]
    apply Layout.of_numeral h.digits_ne_nil h.isDigit_of_mem_digits
    simp
  . rintro ⟨hlayout, hne⟩
    have hsplits := Layout.splits_of text
    rw [hlayout] at hsplits
    refine ⟨?_, hne, hsplits.isDigit_of_mem_digits⟩
    simpa using hsplits.bytes_eq

namespace Input

variable {s : Input} {text : List UInt8} (h : s.Serves text)
include h

theorem Serves.readInt_of_spells {n : Numeral} (hn : n.Spells text) :
    s.readInt.1 = n.toInt64 ∧ s.readInt.2.Serves [] := by
  rw [hn.bytes_eq, ← List.append_nil n.bytes] at h
  apply h.readInt_numeral hn.digits_ne_nil hn.isDigit_of_mem_digits
  simp

theorem Serves.readBounded_eq_ok_iff (v : Int64) :
    Numeral.readBounded text = .ok v
      ↔
    s.readInt.1 = .ok v ∧ s.readInt.2.data = []
      ∧ ∀ b, text.head? = some b → Byte.isSpace b = false := by
  have hsplits := Layout.splits_of text
  rw [Numeral.readBounded_eq_ok_iff, ← hsplits.blank_eq_nil_iff]
  constructor
  . rintro ⟨n, hn, hv⟩
    obtain ⟨hresult, hrest⟩ := h.readInt_of_spells hn
    refine ⟨?_, hrest.data_eq, ?_⟩
    . rw [hresult, Numeral.toInt64_eq_ok hn.isDigit_of_mem_digits]
      exact ⟨hv ▸ Numeral.fits_toInt v, hv⟩
    . rw [((n.spells_iff text).1 hn).1]
  . rintro ⟨hresult, hrest, hblank⟩
    rw [h.readInt_eq.1, Layout.outcome_eq_ok_iff hsplits.isDigit_of_mem_digits] at hresult
    rw [h.readInt_eq.2.data_eq] at hrest
    refine ⟨(Layout.of text).numeral, ?_, hresult.2.2⟩
    rw [Numeral.spells_iff]
    refine ⟨?_, hresult.1⟩
    generalize Layout.of text = l at *
    rcases l with ⟨blank, numeral, rest⟩
    cases hblank
    cases hrest
    rfl

end Input

namespace Script

namespace Call

theorem parse_symbol_equals {b : Builtin} (hb : b = .printInt ∨ b = .printBool) (a : String) :
    parse (b.symbol ++ "=" ++ a)
      =
    match Numeral.readBounded (Text.bytes a) with
    | .ok v => .ok ⟨b, some v⟩
    | .error d => .error (.badValue (b.symbol ++ "=" ++ a) d) := by
  rw [parse, splitValue_of_parted ⟨rfl, b.equals_not_mem_symbol⟩]
  dsimp only
  cases Numeral.readBounded (Text.bytes a) with
  | error d => rfl
  | ok v =>
    simp only [Builtin.ofSymbol?_symbol]
    rw [if_neg (b.not_isEmpty_params_iff.2 hb)]

/--
The text behind the equals sign of a call is read as a value exactly if a read from an input that
serves the text comes to this value, leaves nothing and begins with no white space. If the text is a
numeral, the read finds it out of range exactly if the call is rejected because of a value that is
too large or, behind a minus sign, too small.
-/
theorem parse_agrees_readInt {b : Builtin} (hb : b = .printInt ∨ b = .printBool) (a : String)
    {s : Input} (h : s.Serves (Text.bytes a)) :
    (∀ call : Call, parse (b.symbol ++ "=" ++ a) = .ok call
        ↔ ∃ v, call = ⟨b, some v⟩ ∧ s.readInt.1 = .ok v ∧ s.readInt.2.data = []
            ∧ ∀ c, (Text.bytes a).head? = some c → Byte.isSpace c = false)
      ∧ ∀ n : Numeral, n.Spells (Text.bytes a) →
          ((∃ literal, s.readInt.1 = .error (.outOfRange literal))
            ↔ parse (b.symbol ++ "=" ++ a)
                = .error (.badValue (b.symbol ++ "=" ++ a)
                    (if n.sign = some .minus then .tooSmall else .tooLarge))) := by
  rw [parse_symbol_equals hb]
  constructor
  . intro call
    simp only [← h.readBounded_eq_ok_iff]
    cases Numeral.readBounded (Text.bytes a) with
    | error d => simp
    | ok v => simp [eq_comm]
  . intro n hn
    obtain ⟨hresult, -⟩ := h.readInt_of_spells hn
    rw [hresult, Numeral.toInt64_eq hn.isDigit_of_mem_digits]
    rw [hn.bytes_eq, Numeral.readBounded_bytes n hn.digits_ne_nil hn.isDigit_of_mem_digits]
    rw [Numeral.Defect.ofSign_getD]
    by_cases hfits : Numeral.Fits n.value
    . simp [hfits]
    . simp [hfits]

theorem parse_agrees_readInt_least :
    let a := "-9223372036854775808"
    let s := Input.ofBytes (Text.bytes a)
    s.Serves (Text.bytes a) ∧ s.readInt.1 = .ok Int64.minValue
      ∧ parse (Builtin.printInt.symbol ++ "=" ++ a) = .ok ⟨.printInt, some Int64.minValue⟩ := by
  intro a s
  have hserves : s.Serves (Text.bytes a) := Input.serves_chunk (Text.bytes a) 0
  have hresult : s.readInt.1 = .ok Int64.minValue := by decide +kernel
  refine ⟨hserves, hresult, ?_⟩
  obtain ⟨hok, -⟩ := parse_agrees_readInt (.inl rfl) a hserves
  rw [hok]
  refine ⟨Int64.minValue, rfl, hresult, by decide +kernel, ?_⟩
  have hfront : (Text.bytes a).head? = some Sign.minus.byte := by decide +kernel
  intro c hc
  rw [hfront] at hc
  cases hc
  rfl

end Call

end Script

end IntConsole
