/-!
This module contains the classes of bytes that a reader of integers tells apart, and the way a
single byte is shown in a message.
-/

namespace IntConsole

namespace Byte

/--
The white space of the plain C locale: space, tab, newline, vertical tab, form feed and carriage
return.
-/
def isSpace (b : UInt8) : Bool :=
  b == 32 || (9 ≤ b && b ≤ 13)

def isDigit (b : UInt8) : Bool :=
  48 ≤ b && b ≤ 57

def digitValue (b : UInt8) : Nat :=
  b.toNat - 48

def ofDigit (n : Nat) : UInt8 :=
  UInt8.ofNat (48 + n)

theorem isSpace_iff (b : UInt8) : isSpace b = true ↔ b ∈ [9, 10, 11, 12, 13, 32] := by
  simp only [isSpace, Bool.or_eq_true, beq_iff_eq, Bool.and_eq_true, decide_eq_true_eq,
    List.mem_cons, List.not_mem_nil, or_false, UInt8.le_iff_toNat_le, ← UInt8.toNat_inj,
    UInt8.toNat_ofNat]
  omega

theorem isDigit_iff (b : UInt8) : isDigit b = true ↔ 48 ≤ b.toNat ∧ b.toNat ≤ 57 := by
  simp [isDigit, UInt8.le_iff_toNat_le]

theorem toNat_ofDigit {n : Nat} (h : n < 10) : (ofDigit n).toNat = 48 + n := by
  simp [ofDigit]
  omega

theorem isDigit_ofDigit {n : Nat} (h : n < 10) : isDigit (ofDigit n) = true := by
  rw [isDigit_iff, toNat_ofDigit h]
  omega

theorem digitValue_ofDigit {n : Nat} (h : n < 10) : digitValue (ofDigit n) = n := by
  rw [digitValue, toNat_ofDigit h]
  omega

theorem ofDigit_digitValue {b : UInt8} (h : isDigit b = true) : ofDigit (digitValue b) = b := by
  rw [isDigit_iff] at h
  have hvalue : 48 + (b.toNat - 48) = b.toNat := by omega
  rw [ofDigit, digitValue, hvalue, UInt8.ofNat_toNat]

theorem digitValue_lt {b : UInt8} (h : isDigit b = true) : digitValue b < 10 := by
  rw [isDigit_iff] at h
  rw [digitValue]
  omega

def hexDigit (n : Nat) : Char :=
  if n < 10 then Char.ofNat (48 + n) else Char.ofNat (87 + n)

def shown (b : UInt8) : String :=
  if b = 9 then "\\t"
  else if b = 10 then "\\n"
  else if b = 13 then "\\r"
  else if b = 34 then "\\\""
  else if b = 39 then "\\'"
  else if b = 92 then "\\\\"
  else if 32 ≤ b ∧ b ≤ 126 then String.singleton (Char.ofNat b.toNat)
  else String.ofList ['\\', 'x', hexDigit (b.toNat / 16), hexDigit (b.toNat % 16)]

end Byte

end IntConsole
