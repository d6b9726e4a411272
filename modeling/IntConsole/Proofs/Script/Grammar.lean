import IntConsole.Proofs.Numeral.Defect
import IntConsole.Script.Call
import Mathlib.Data.List.TakeWhile

/-!
This module contains the grammar of the calls of a script: what a text of any kind denotes, be it a
call or one of the reasons for which it is none. The main statement is that calls are read by this
grammar and that writing out a call that was read and reading it again leads back to it.
-/

namespace IntConsole

namespace Decimal

theorem numeral_spells (n : Int) : (numeral n).Spells (Text.bytes (text n)) where
  bytes_eq := Text.bytes_ofAscii fun _ =>
    Numeral.toNat_lt_of_mem_bytes fun _ => isDigit_of_mem_digits
  digits_ne_nil := digits_ne_nil _
  isDigit_of_mem_digits := fun _ => isDigit_of_mem_digits

end Decimal

namespace Builtin

theorem equals_not_mem_symbol (b : Builtin) : '=' ∉ b.symbol.toList := by
  cases b <;> decide

theorem isEmpty_params_iff (b : Builtin) :
    b.params.isEmpty = true ↔ b = .readInt ∨ b = .println := by
  cases b <;> decide

theorem not_isEmpty_params_iff (b : Builtin) :
    ¬b.params.isEmpty = true ↔ b = .printInt ∨ b = .printBool := by
  cases b <;> decide

end Builtin

namespace Script

structure Parted (s name value : String) : Prop where
  eq : s = name ++ "=" ++ value
  not_mem : '=' ∉ name.toList

namespace Call

theorem ne_equals_of_not_mem {cs : List Char} (h : '=' ∉ cs) :
    ∀ c ∈ cs, (c != '=') = true := by
  intro c hc
  rw [bne_iff_ne]
  rintro rfl
  exact h hc

theorem splitValue_of_not_mem {s : String} (h : '=' ∉ s.toList) : splitValue s = (s, none) := by
  have hne := ne_equals_of_not_mem h
  have htake : s.toList.takeWhile (· != '=') = s.toList := by
    rw [List.takeWhile_eq_self_iff]
    exact hne
  have hdrop : s.toList.dropWhile (· != '=') = [] := by
    rw [List.dropWhile_eq_nil_iff]
    exact hne
  rw [splitValue, htake, hdrop, String.ofList_toList]

theorem splitValue_of_parted {s name value : String} (h : Parted s name value) :
    splitValue s = (name, some value) := by
  have hne := ne_equals_of_not_mem h.not_mem
  have hlist : s.toList = name.toList ++ '=' :: value.toList := by
    rw [h.eq, String.toList_append, String.toList_append, List.append_assoc]
    rfl
  have htake : s.toList.takeWhile (· != '=') = name.toList := by
    rw [hlist, List.takeWhile_append_of_pos hne]
    simp
  have hdrop : s.toList.dropWhile (· != '=') = '=' :: value.toList := by
    rw [hlist, List.dropWhile_append_of_pos hne]
    simp
  rw [splitValue, htake, hdrop]
  simp only [String.ofList_toList]

theorem not_mem_or_parted (s : String) :
    '=' ∉ s.toList ∨ ∃ name value, Parted s name value := by
  by_cases hs : '=' ∈ s.toList
  . obtain ⟨front, back, heq, hfront⟩ := List.eq_append_cons_of_mem hs
    refine .inr ⟨String.ofList front, String.ofList back, ?_, ?_⟩
    . apply String.toList_injective
      simp [heq]
    . rw [String.toList_ofList]
      exact hfront
  . exact .inl hs

/--
What a text denotes as a call. A value that cannot be read comes before a name that nothing has, and
a builtin that takes no value comes last.
-/
inductive Denotes (s : String) : Except Failure Call → Prop where
  | bare {b : Builtin} (hs : s = b.symbol) : Denotes s (.ok ⟨b, none⟩)
  | unknown (hs : '=' ∉ s.toList) (hname : ∀ b : Builtin, s ≠ b.symbol) :
      Denotes s (.error (.call (.unknownBuiltin s)))
  | badValue {name value : String} {d : Numeral.Defect} (hs : Parted s name value)
      (hvalue : ∀ m : Numeral, m.Spells (Text.bytes value) → ¬Numeral.Fits m.value)
      (hdefect : d.Explains (Text.bytes value)) :
      Denotes s (.error (.badValue s d))
  | unknownWithValue {name value : String} {m : Numeral} (hs : Parted s name value)
      (hvalue : m.Spells (Text.bytes value)) (hfits : Numeral.Fits m.value)
      (hname : ∀ b : Builtin, name ≠ b.symbol) :
      Denotes s (.error (.call (.unknownBuiltin name)))
  | takesNoValue {b : Builtin} {value : String} {m : Numeral} (hs : Parted s b.symbol value)
      (hvalue : m.Spells (Text.bytes value)) (hfits : Numeral.Fits m.value)
      (hb : b = .readInt ∨ b = .println) :
      Denotes s (.error (.takesNoValue b))
  | withValue {b : Builtin} {value : String} {m : Numeral} {v : Int64}
      (hs : Parted s b.symbol value) (hvalue : m.Spells (Text.bytes value))
      (hv : v.toInt = m.value) (hb : b = .printInt ∨ b = .printBool) :
      Denotes s (.ok ⟨b, some v⟩)

theorem Denotes.parse_eq {s : String} {r : Except Failure Call} (h : Denotes s r) :
    parse s = r := by
  cases h with
  | @bare b hs =>
    rw [hs, parse, splitValue_of_not_mem b.equals_not_mem_symbol]
    simp only [Builtin.ofSymbol?_symbol]
  | unknown hs hname =>
    rw [parse, splitValue_of_not_mem hs]
    simp only [Builtin.ofSymbol?_eq_none.2 hname]
  | badValue hs _ hdefect =>
    rw [parse, splitValue_of_parted hs]
    simp only [hdefect.readBounded_eq]
  | unknownWithValue hs hvalue hfits hname =>
    rw [parse, splitValue_of_parted hs]
    simp only [hvalue.readBounded_eq hfits, Builtin.ofSymbol?_eq_none.2 hname]
  | takesNoValue hs hvalue hfits hb =>
    rw [parse, splitValue_of_parted hs]
    simp only [hvalue.readBounded_eq hfits, Builtin.ofSymbol?_symbol]
    rw [if_pos ((Builtin.isEmpty_params_iff _).2 hb)]
  | withValue hs hvalue hv hb =>
    rw [parse, splitValue_of_parted hs]
    simp only [Numeral.readBounded_eq_ok_iff.2 ⟨_, hvalue, hv⟩, Builtin.ofSymbol?_symbol]
    rw [if_neg ((Builtin.not_isEmpty_params_iff _).2 hb)]

theorem exists_denotes (s : String) : ∃ r, Denotes s r := by
  rcases not_mem_or_parted s with hs | ⟨name, value, hs⟩
  . cases hname : Builtin.ofSymbol? s with
    | some b => exact ⟨_, .bare (Builtin.ofSymbol?_eq_some.1 hname)⟩
    | none => exact ⟨_, .unknown hs (Builtin.ofSymbol?_eq_none.1 hname)⟩
  . cases hread : Numeral.readBounded (Text.bytes value) with
    | error d =>
      refine ⟨_, .badValue hs ?_ (Numeral.readBounded_eq_error_iff.1 hread)⟩
      intro m hvalue hfits
      rw [hvalue.readBounded_eq hfits] at hread
      cases hread
    | ok v =>
      obtain ⟨m, hvalue, hv⟩ := Numeral.readBounded_eq_ok_iff.1 hread
      have hfits : Numeral.Fits m.value := hv ▸ Numeral.fits_toInt v
      cases hname : Builtin.ofSymbol? name with
      | none =>
        exact ⟨_, .unknownWithValue hs hvalue hfits (Builtin.ofSymbol?_eq_none.1 hname)⟩
      | some b =>
        rw [Builtin.ofSymbol?_eq_some] at hname
        subst hname
        by_cases hb : b.params.isEmpty = true
        . exact ⟨_, .takesNoValue hs hvalue hfits (b.isEmpty_params_iff.1 hb)⟩
        . exact ⟨_, .withValue hs hvalue hv (b.not_isEmpty_params_iff.1 hb)⟩

theorem parse_eq_iff (s : String) (r : Except Failure Call) : parse s = r ↔ Denotes s r := by
  constructor
  . intro h
    obtain ⟨r', hr'⟩ := exists_denotes s
    rw [← h, hr'.parse_eq]
    exact hr'
  . exact Denotes.parse_eq

theorem Denotes.render {s : String} {call : Call} (h : Denotes s (.ok call)) :
    Denotes call.render (.ok call) := by
  cases h with
  | bare hs => exact .bare rfl
  | @withValue b _ _ v hs hvalue hv hb =>
    have hparted : Parted (b.symbol ++ "=" ++ Decimal.text v.toInt) b.symbol
        (Decimal.text v.toInt) := ⟨rfl, b.equals_not_mem_symbol⟩
    have hvalue : v.toInt = (Decimal.numeral v.toInt).value := (Decimal.value_numeral _).symm
    exact .withValue hparted (Decimal.numeral_spells v.toInt) hvalue hb

/--
A text is read as what it denotes, which is one thing for every text, and a call that was read comes
back when it is written out and read again.
-/
theorem parse_by_grammar (s : String) :
    (∀ r, parse s = r ↔ Denotes s r)
      ∧ ∀ call, parse s = .ok call → parse call.render = .ok call := by
  refine ⟨parse_eq_iff s, ?_⟩
  intro call hcall
  exact ((parse_eq_iff s _).1 hcall).render.parse_eq

end Call

end Script

end IntConsole
