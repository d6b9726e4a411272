import IntConsole.Numeral.Basic

/-!
This module contains the way integers are printed: decimal digits without leading zeros and a minus
sign in front of negative numbers.
-/

namespace IntConsole

namespace Decimal

def digits (n : Nat) : List UInt8 :=
  if n < 10 then
    [Byte.ofDigit n]
  else
    digits (n / 10) ++ [Byte.ofDigit (n % 10)]

def numeral (n : Int) : Numeral where
  sign := if n < 0 then some .minus else none
  digits := digits n.natAbs

def bytes (n : Int) : List UInt8 :=
  (numeral n).bytes

def pieces (n : Int) : List (List UInt8) :=
  (numeral n).pieces

theorem flatten_pieces (n : Int) : (pieces n).flatten = bytes n :=
  (numeral n).flatten_pieces

theorem digits_ne_nil (n : Nat) : digits n ≠ [] := by
  rw [digits]
  split <;> simp

theorem isDigit_of_mem_digits {n : Nat} {b : UInt8} (h : b ∈ digits n) :
    Byte.isDigit b = true := by
  fun_induction digits n with
  | case1 n hn =>
    rw [List.mem_singleton.1 h]
    exact Byte.isDigit_ofDigit hn
  | case2 n _ ih =>
    rcases List.mem_append.1 h with h | h
    . exact ih h
    . rw [List.mem_singleton.1 h]
      exact Byte.isDigit_ofDigit (by omega)

theorem magnitude_digits (n : Nat) : Numeral.magnitude (digits n) = n := by
  fun_induction digits n with
  | case1 n hn => simp [Numeral.magnitude, Byte.digitValue_ofDigit hn]
  | case2 n _ ih =>
    rw [Numeral.magnitude_concat, ih, Byte.digitValue_ofDigit (by omega)]
    omega

theorem value_numeral (n : Int) : (numeral n).value = n := by
  unfold numeral Numeral.value
  rw [magnitude_digits]
  split
  . show -(n.natAbs : Int) = n
    omega
  . show (n.natAbs : Int) = n
    omega

theorem digits_of_lt {n : Nat} (h : n < 10) : digits n = [Byte.ofDigit n] := by
  rw [digits, if_pos h]

theorem digits_of_le {n : Nat} (h : 10 ≤ n) :
    digits n = digits (n / 10) ++ [Byte.ofDigit (n % 10)] := by
  rw [digits, if_neg (Nat.not_lt.2 h)]

theorem eq_zero_of_head?_digits {n : Nat} (h : (digits n).head? = some 48) : n = 0 := by
  fun_induction digits n with
  | case1 n hn =>
    have hzero : (Byte.ofDigit n).toNat = 48 := by
      rw [Option.some_inj.1 h]
      rfl
    rw [Byte.toNat_ofDigit hn] at hzero
    omega
  | case2 n hn ih =>
    obtain ⟨b, front, hfront⟩ := List.exists_cons_of_ne_nil (digits_ne_nil (n / 10))
    rw [hfront] at h ih
    have := ih h
    omega

theorem digits_magnitude_concat {ds : List UInt8} (hds : digits (Numeral.magnitude ds) = ds)
    (hhead : ds.head? ≠ some 48) {b : UInt8} (hb : Byte.isDigit b = true) :
    digits (Numeral.magnitude (ds ++ [b])) = ds ++ [b] := by
  have hpos : Numeral.magnitude ds ≠ 0 := by
    intro h
    rw [h, digits_of_lt (by decide)] at hds
    rw [← hds] at hhead
    exact hhead rfl
  have hlt := Byte.digitValue_lt hb
  have hdiv : (10 * Numeral.magnitude ds + Byte.digitValue b) / 10 = Numeral.magnitude ds := by
    omega
  have hmod : (10 * Numeral.magnitude ds + Byte.digitValue b) % 10 = Byte.digitValue b := by
    omega
  rw [Numeral.magnitude_concat, digits_of_le (by omega), hdiv, hmod, hds,
    Byte.ofDigit_digitValue hb]

theorem digits_magnitude {ds : List UInt8} (hne : ds ≠ [])
    (hdigits : ∀ b ∈ ds, Byte.isDigit b = true) (hzero : ds.head? = some 48 → ds = [48]) :
    digits (Numeral.magnitude ds) = ds := by
  induction hlength : ds.length generalizing ds with
  | zero => exact absurd (List.eq_nil_of_length_eq_zero hlength) hne
  | succ n ih =>
    obtain ⟨front, b, rfl⟩ : ∃ front b, ds = front ++ [b] :=
      ⟨_, _, (List.dropLast_concat_getLast hne).symm⟩
    have hb := hdigits b (List.mem_append_right _ (List.mem_singleton_self b))
    have hfront : front.length = n := by simpa using hlength
    cases hcons : front with
    | nil =>
      have hlt := Byte.digitValue_lt hb
      rw [List.nil_append, ← List.nil_append [b], Numeral.magnitude_concat, Numeral.magnitude_nil,
        Nat.mul_zero, Nat.zero_add, digits_of_lt hlt, Byte.ofDigit_digitValue hb, List.nil_append]
    | cons c rest =>
      rw [← hcons]
      have hhead : front.head? ≠ some 48 := by
        intro h
        have hsingle := hzero (by rw [List.head?_append, h]; rfl)
        rw [hcons] at hsingle
        simp at hsingle
      have hds := ih (by simp [hcons]) (fun d hd => hdigits d (List.mem_append_left _ hd))
        (fun h => absurd h hhead) hfront
      exact digits_magnitude_concat hds hhead hb

/--
The numeral that is printed for `v` is the only one that denotes `v`, has no plus sign, has a minus
sign in front of negative numbers only, and has no leading zero.
-/
theorem eq_numeral_iff (n : Numeral) (v : Int) :
    n = numeral v
      ↔ n.value = v ∧ n.sign ≠ some .plus ∧ (n.sign = some .minus → v < 0)
        ∧ n.digits ≠ [] ∧ (∀ b ∈ n.digits, Byte.isDigit b = true)
        ∧ (n.digits.head? = some 48 → n.digits = [48]) := by
  constructor
  . rintro rfl
    refine ⟨value_numeral v, ?_, ?_, digits_ne_nil _, fun b hb => isDigit_of_mem_digits hb, ?_⟩
    . unfold numeral
      split <;> simp
    . unfold numeral
      split
      . next hneg => exact fun _ => hneg
      . exact nofun
    . intro h
      change digits v.natAbs = [48]
      rw [eq_zero_of_head?_digits h]
      exact digits_of_lt (by decide)
  . rintro ⟨rfl, hplus, hminus, hne, hdigits, hzero⟩
    obtain ⟨sign, ds⟩ := n
    have hds := digits_magnitude hne hdigits hzero
    cases sign with
    | none =>
      have hvalue : (Numeral.mk none ds).value = Numeral.magnitude ds := rfl
      rw [numeral, hvalue, if_neg (by omega), Int.natAbs_natCast, hds]
    | some g =>
      cases g with
      | plus => exact absurd rfl hplus
      | minus =>
        have hneg := hminus rfl
        have hvalue : (Numeral.mk (some .minus) ds).value = -Numeral.magnitude ds := rfl
        rw [numeral, if_pos hneg, hvalue, Int.natAbs_neg, Int.natAbs_natCast, hds]

end Decimal

end IntConsole
