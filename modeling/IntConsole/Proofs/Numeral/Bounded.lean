import IntConsole.Reading.Integer
import Mathlib.Algebra.Group.Nat.Defs

/-!
This module contains what the readers of bounded integers come to on a numeral of any length: the
integer that it denotes when that one fits into 64 bits, and a defect otherwise. Neither the leading
zeros nor the cut behind the kept digits makes a difference to that.
-/

namespace IntConsole

namespace Sign

theorem ofByte?_eq_none_of_isDigit {b : UInt8} (h : Byte.isDigit b = true) : ofByte? b = none := by
  rw [Byte.isDigit_iff] at h
  cases hb : ofByte? b with
  | none => rfl
  | some g =>
    rw [ofByte?_eq_some] at hb
    subst hb
    cases g with
    | plus => exact absurd h (by decide)
    | minus => exact absurd h (by decide)

theorem apply_step (g : Sign) (m d : Nat) :
    10 * g.apply m + g.apply d = g.apply (10 * m + d : Nat) := by
  cases g with
  | plus =>
    simp only [apply]
    omega
  | minus =>
    simp only [apply]
    omega

end Sign

namespace Numeral

def magnitudeFrom (m : Nat) (digits : List UInt8) : Nat :=
  digits.foldl (fun n b => 10 * n + Byte.digitValue b) m

theorem magnitudeFrom_cons (m : Nat) (b : UInt8) (digits : List UInt8) :
    magnitudeFrom m (b :: digits) = magnitudeFrom (10 * m + Byte.digitValue b) digits := by
  rw [magnitudeFrom, magnitudeFrom, List.foldl_cons]

theorem magnitude_eq_magnitudeFrom (digits : List UInt8) :
    magnitude digits = magnitudeFrom 0 digits := rfl

theorem pow_mul_le_magnitudeFrom (m : Nat) (digits : List UInt8) :
    10 ^ digits.length * m ≤ magnitudeFrom m digits := by
  induction digits generalizing m with
  | nil => simp [magnitudeFrom]
  | cons b digits ih =>
    rw [magnitudeFrom_cons]
    calc 10 ^ (b :: digits).length * m
      _ = 10 ^ digits.length * (10 * m) := by rw [List.length_cons, Nat.pow_succ, Nat.mul_assoc]
      _ ≤ 10 ^ digits.length * (10 * m + Byte.digitValue b) := by
        apply Nat.mul_le_mul_left
        omega
      _ ≤ magnitudeFrom (10 * m + Byte.digitValue b) digits := ih _

theorem le_magnitudeFrom (m : Nat) (digits : List UInt8) : m ≤ magnitudeFrom m digits := by
  apply Nat.le_trans ?_ (pow_mul_le_magnitudeFrom m digits)
  apply Nat.le_mul_of_pos_left
  exact Nat.pow_pos (by omega)

theorem fits_apply_of_le {g : Sign} {m n : Nat} (h : m ≤ n) (hn : Fits (g.apply n)) :
    Fits (g.apply m) := by
  unfold Fits at *
  cases g with
  | plus =>
    simp only [Sign.apply] at *
    omega
  | minus =>
    simp only [Sign.apply] at *
    omega

theorem le_of_fits_apply {g : Sign} {m : Nat} (h : Fits (g.apply m)) : m ≤ 2 ^ 63 := by
  unfold Fits at h
  cases g with
  | plus =>
    simp only [Sign.apply] at h
    omega
  | minus =>
    simp only [Sign.apply] at h
    omega

theorem readBounded.go_eq (g : Sign) (m : Nat) (digits : List UInt8)
    (hdigits : ∀ b ∈ digits, Byte.isDigit b = true) (hm : Fits (g.apply m)) :
    go g (g.apply m) digits
      =
    if Fits (g.apply (magnitudeFrom m digits)) then
      .ok (Int64.ofInt (g.apply (magnitudeFrom m digits)))
    else
      .error (.ofSign g) := by
  induction digits generalizing m with
  | nil =>
    rw [go]
    exact (if_pos hm).symm
  | cons b digits ih =>
    have hb : Byte.isDigit b = true := hdigits b List.mem_cons_self
    have hrest : ∀ c ∈ digits, Byte.isDigit c = true :=
      fun c hc => hdigits c (List.mem_cons_of_mem b hc)
    rw [go, if_pos hb]
    simp only [Sign.apply_step, magnitudeFrom_cons]
    split
    . next hnext => exact ih _ hrest hnext
    . next hnext =>
      -- Digits only add to the magnitude, so a number that has left the range stays outside.
      rw [if_neg]
      intro hfits
      exact hnext (fits_apply_of_le (le_magnitudeFrom _ _) hfits)

theorem fits_apply_zero (g : Sign) : Fits (g.apply (0 : Nat)) := by
  cases g <;> decide

theorem value_eq_apply (n : Numeral) :
    n.value = (n.sign.getD .plus).apply (magnitude n.digits) := rfl

theorem readBounded_bytes (n : Numeral) (hne : n.digits ≠ [])
    (hdigits : ∀ b ∈ n.digits, Byte.isDigit b = true) :
    readBounded n.bytes
      =
    if Fits n.value then .ok (Int64.ofInt n.value) else .error (.ofSign (n.sign.getD .plus)) := by
  rcases n with ⟨sign, digits⟩
  dsimp only at hne hdigits
  rw [value_eq_apply, magnitude_eq_magnitudeFrom]
  cases sign with
  | none =>
    -- Without a sign it is the first digit that is looked at in its place.
    cases digits with
    | nil => exact absurd rfl hne
    | cons b digits =>
      have hb : Sign.ofByte? b = none :=
        Sign.ofByte?_eq_none_of_isDigit (hdigits b List.mem_cons_self)
      simp only [bytes, Option.map_none, Option.toList_none, List.nil_append, readBounded, hb]
      exact readBounded.go_eq .plus 0 (b :: digits) hdigits (fits_apply_zero _)
  | some g =>
    have hempty : digits.isEmpty = false := by
      rw [List.isEmpty_eq_false_iff]
      exact hne
    simp only [bytes, Option.map_some, Option.toList_some, List.cons_append, List.nil_append,
      readBounded, Sign.ofByte?_byte, hempty]
    have hzero : g.apply (0 : Nat) = 0 := by cases g <;> rfl
    rw [← hzero]
    exact readBounded.go_eq g 0 digits hdigits (fits_apply_zero g)

theorem magnitude_dropWhile_zero (digits : List UInt8) :
    magnitude (digits.dropWhile (· == 48)) = magnitude digits := by
  induction digits with
  | nil => rfl
  | cons b digits ih =>
    rw [List.dropWhile_cons]
    split
    . next hb =>
      have hb : b = 48 := by simpa using hb
      rw [ih, hb, magnitude_eq_magnitudeFrom, magnitude_eq_magnitudeFrom, magnitudeFrom_cons]
      rfl
    . rfl

theorem magnitude_significant (n : Numeral) : magnitude n.significant = magnitude n.digits :=
  magnitude_dropWhile_zero n.digits

theorem isDigit_of_mem_significant {n : Numeral} (hdigits : ∀ b ∈ n.digits, Byte.isDigit b = true) :
    ∀ b ∈ n.significant, Byte.isDigit b = true := by
  intro b hb
  apply hdigits
  exact (List.dropWhile_sublist _).mem hb

theorem pow_le_magnitude {b : UInt8} {digits : List UInt8} (hb : Byte.isDigit b = true)
    (hzero : b ≠ 48) : 10 ^ digits.length ≤ magnitude (b :: digits) := by
  have hpos : 1 ≤ Byte.digitValue b := by
    rw [Byte.isDigit_iff] at hb
    have : b.toNat ≠ 48 := fun h => hzero (UInt8.toNat_inj.1 h)
    rw [Byte.digitValue]
    omega
  rw [magnitude_eq_magnitudeFrom, magnitudeFrom_cons]
  calc 10 ^ digits.length
    _ ≤ 10 ^ digits.length * (10 * 0 + Byte.digitValue b) := Nat.le_mul_of_pos_right _ (by omega)
    _ ≤ magnitudeFrom (10 * 0 + Byte.digitValue b) digits := pow_mul_le_magnitudeFrom _ _

theorem not_fits_of_maxSignificant_le {n : Numeral}
    (hdigits : ∀ b ∈ n.digits, Byte.isDigit b = true)
    (hlong : maxSignificant ≤ n.significant.length) :
    ¬Fits n.value := by
  intro hfits
  rw [value_eq_apply, ← magnitude_significant] at hfits
  have hle : magnitude n.significant ≤ 2 ^ 63 := le_of_fits_apply hfits
  cases hsig : n.significant with
  | nil =>
    rw [hsig] at hlong
    exact absurd hlong (by decide)
  | cons b digits =>
    have hb : Byte.isDigit b = true := by
      apply isDigit_of_mem_significant hdigits
      rw [hsig]
      exact List.mem_cons_self
    have hzero : b ≠ 48 := by
      have := List.head?_dropWhile_not (· == (48 : UInt8)) n.digits
      rw [significant] at hsig
      simpa [hsig] using this
    -- The kept digits do not begin with a zero, so that their number alone makes them too large.
    have hpow : 10 ^ digits.length ≤ magnitude (b :: digits) := pow_le_magnitude hb hzero
    have hlen : 19 ≤ digits.length := by
      rw [hsig, List.length_cons, maxSignificant] at hlong
      omega
    have : (10 : Nat) ^ 19 ≤ 10 ^ digits.length := Nat.pow_le_pow_right (by omega) hlen
    rw [hsig] at hle
    omega

def stripped (n : Numeral) : Numeral where
  sign := n.sign
  digits := if n.significant.isEmpty then [48] else n.significant

theorem value_stripped (n : Numeral) : n.stripped.value = n.value := by
  rw [value_eq_apply, value_eq_apply, ← magnitude_significant n]
  congr 2
  dsimp only [stripped]
  split
  . next hempty =>
    rw [List.isEmpty_iff.1 hempty]
    rfl
  . rfl

theorem digits_stripped_ne_nil (n : Numeral) : n.stripped.digits ≠ [] := by
  dsimp only [stripped]
  split
  . simp
  . next hempty => simpa using hempty

theorem isDigit_of_mem_stripped {n : Numeral} (hdigits : ∀ b ∈ n.digits, Byte.isDigit b = true) :
    ∀ b ∈ n.stripped.digits, Byte.isDigit b = true := by
  dsimp only [stripped]
  split
  . intro b hb
    rw [List.mem_singleton.1 hb]
    decide
  . exact isDigit_of_mem_significant hdigits

def literal (n : Numeral) : String :=
  if n.significant.length ≤ maxSignificant then
    Text.ofAscii n.stripped.bytes
  else
    Text.ofAscii n.kept.bytes ++ "..."

theorem toInt64_eq {n : Numeral} (hdigits : ∀ b ∈ n.digits, Byte.isDigit b = true) :
    n.toInt64
      =
    if Fits n.value then .ok (Int64.ofInt n.value) else .error (.outOfRange n.literal) := by
  unfold toInt64 literal
  dsimp only
  split
  . have hread := readBounded_bytes n.stripped (digits_stripped_ne_nil n)
      (isDigit_of_mem_stripped hdigits)
    rw [value_stripped] at hread
    unfold stripped at hread ⊢
    rw [hread]
    by_cases hfits : Fits n.value
    . simp only [if_pos hfits]
    . simp only [if_neg hfits]
  . next hlong =>
    rw [if_neg]
    apply not_fits_of_maxSignificant_le hdigits
    omega

theorem toInt64_eq_ok {n : Numeral} (hdigits : ∀ b ∈ n.digits, Byte.isDigit b = true) {v : Int64} :
    n.toInt64 = .ok v ↔ Fits n.value ∧ v.toInt = n.value := by
  rw [toInt64_eq hdigits]
  split
  . next hfits =>
    rw [Except.ok.injEq]
    constructor
    . intro h
      rw [← h]
      exact ⟨hfits, toInt_ofInt hfits⟩
    . intro h
      rw [← Int64.toInt_inj, toInt_ofInt hfits]
      exact h.2.symm
  . next hfits => simp [hfits]

theorem toInt64_eq_error {n : Numeral} (hdigits : ∀ b ∈ n.digits, Byte.isDigit b = true)
    {e : ReadFailure} : n.toInt64 = .error e ↔ ¬Fits n.value ∧ e = .outOfRange n.literal := by
  rw [toInt64_eq hdigits]
  split
  . next hfits => simp [hfits]
  . next hfits =>
    rw [Except.error.injEq]
    constructor
    . intro h
      exact ⟨hfits, h.symm⟩
    . intro h
      exact h.2.symm

end Numeral

end IntConsole
