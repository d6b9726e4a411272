import IntConsole.Numeral.Decimal

/-!
This module contains the passage between texts and the bytes that streams carry: texts are written
in UTF-8, and runs of ASCII bytes are read back as texts.
-/

namespace IntConsole

namespace Text

def bytes (s : String) : List UInt8 :=
  s.toList.flatMap String.utf8EncodeChar

def ofAscii (bs : List UInt8) : String :=
  String.ofList (bs.map fun b => Char.ofNat b.toNat)

@[simp]
theorem bytes_append (s t : String) : bytes (s ++ t) = bytes s ++ bytes t := by
  simp [bytes]

@[simp]
theorem bytes_empty : bytes "" = [] := by
  simp [bytes]

theorem utf8EncodeChar_ofNat {b : UInt8} (h : b.toNat < 128) :
    String.utf8EncodeChar (Char.ofNat b.toNat) = [b] := by
  have hvalid : b.toNat.isValidChar := .inl (by omega)
  have hval : (Char.ofNat b.toNat).val.toNat = b.toNat := by
    rw [Char.ofNat, dif_pos hvalid]
    rfl
  have hsize : (Char.ofNat b.toNat).utf8Size = 1 := by
    rw [Char.utf8Size_eq_one_iff, UInt32.le_iff_toNat_le, hval]
    exact Nat.le_of_lt_succ h
  rw [String.utf8EncodeChar_eq_singleton hsize]
  congr 1
  rw [← UInt8.toNat_inj, UInt32.toNat_toUInt8, hval]
  exact Nat.mod_eq_of_lt b.toNat_lt

theorem bytes_ofAscii {bs : List UInt8} (h : ∀ b ∈ bs, b.toNat < 128) :
    bytes (ofAscii bs) = bs := by
  rw [bytes, ofAscii, String.toList_ofList]
  induction bs with
  | nil => rfl
  | cons b bs ih =>
    have hrest : ∀ c ∈ bs, c.toNat < 128 := fun c hc => h c (List.mem_cons_of_mem b hc)
    rw [List.map_cons, List.flatMap_cons, utf8EncodeChar_ofNat (h b List.mem_cons_self), ih hrest]
    rfl

@[simp]
theorem length_ofAscii (bs : List UInt8) : (ofAscii bs).length = bs.length := by
  simp [ofAscii]

end Text

namespace Decimal

def text (n : Int) : String :=
  Text.ofAscii (bytes n)

end Decimal

end IntConsole
