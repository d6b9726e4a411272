import IntConsole.Byte

/-!
This module contains the notion of a written integer: an optional sign in front of a run of decimal
digits, together with the number it denotes. The number is not bounded and leading zeros are
allowed.
-/

namespace IntConsole

inductive Sign where
  | plus
  | minus
  deriving DecidableEq

namespace Sign

def byte : Sign → UInt8
  | plus => 43
  | minus => 45

def ofByte? (b : UInt8) : Option Sign :=
  if b = 43 then some plus
  else if b = 45 then some minus
  else none

@[simp]
theorem ofByte?_byte (g : Sign) : ofByte? g.byte = some g := by
  cases g <;> rfl

theorem ofByte?_eq_some {b : UInt8} {g : Sign} : ofByte? b = some g ↔ b = g.byte := by
  cases g <;> grind [ofByte?, byte]

def apply : Sign → Int → Int
  | plus, n => n
  | minus, n => -n

end Sign

structure Numeral where
  sign : Option Sign
  digits : List UInt8
  deriving DecidableEq

namespace Numeral

def magnitude (digits : List UInt8) : Nat :=
  digits.foldl (fun n b => 10 * n + Byte.digitValue b) 0

def value (n : Numeral) : Int :=
  (n.sign.getD .plus).apply (magnitude n.digits)

def bytes (n : Numeral) : List UInt8 :=
  (n.sign.map Sign.byte).toList ++ n.digits

def pieces (n : Numeral) : List (List UInt8) :=
  (n.sign.map fun g => [g.byte]).toList ++ [n.digits]

def significant (n : Numeral) : List UInt8 :=
  n.digits.dropWhile (· == 48)

def Fits (n : Int) : Prop :=
  -9223372036854775808 ≤ n ∧ n ≤ 9223372036854775807

instance : DecidablePred Fits :=
  fun _ => inferInstanceAs (Decidable (_ ∧ _))

theorem magnitude_nil : magnitude [] = 0 := rfl

theorem magnitude_concat (digits : List UInt8) (b : UInt8) :
    magnitude (digits ++ [b]) = 10 * magnitude digits + Byte.digitValue b := by
  simp [magnitude]

theorem flatten_pieces (n : Numeral) : n.pieces.flatten = n.bytes := by
  unfold pieces bytes
  cases n.sign <;> simp

theorem length_bytes_le (n : Numeral) : n.bytes.length ≤ n.digits.length + 1 := by
  unfold bytes
  cases n.sign <;> simp

theorem toNat_lt_of_mem_bytes {n : Numeral} (hdigits : ∀ b ∈ n.digits, Byte.isDigit b = true)
    {b : UInt8} (h : b ∈ n.bytes) : b.toNat < 128 := by
  rcases List.mem_append.1 h with h | h
  . cases hsign : n.sign with
    | none => simp [hsign] at h
    | some g =>
      rw [show b = g.byte by simpa [hsign] using h]
      cases g <;> decide
  . have := (Byte.isDigit_iff b).1 (hdigits b h)
    omega

theorem fits_toInt (v : Int64) : Fits v.toInt := by
  have := v.le_toInt
  have := v.toInt_lt
  constructor <;> omega

theorem toInt_ofInt {n : Int} (h : Fits n) : (Int64.ofInt n).toInt = n := by
  obtain ⟨h₁, h₂⟩ := h
  exact Int64.toInt_ofInt_of_le h₁ (by omega)

end Numeral

end IntConsole
