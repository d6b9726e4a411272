import IntConsole.Proofs.Numeral.Bounded

/-!
This module contains what the reader of bounded integers makes of a text of any kind. The main
statements are that it reads the numerals that fit and that what it reports of any other text is
decided by the first place at which something is wrong.
-/

namespace IntConsole

namespace Numeral

structure Spells (n : Numeral) (text : List UInt8) : Prop where
  bytes_eq : text = n.bytes
  digits_ne_nil : n.digits ≠ []
  isDigit_of_mem_digits : ∀ b ∈ n.digits, Byte.isDigit b = true

/--
The bytes are digits, and no number that the first ones of them denote is out of range.
-/
structure Sound (g : Sign) (bs : List UInt8) : Prop where
  isDigit_of_mem : ∀ b ∈ bs, Byte.isDigit b = true
  fits_of_front : ∀ front, front <+: bs → Fits (g.apply (magnitude front))

/--
The first place behind a sign at which something is wrong: the byte there is no digit, or it is one
that takes the number out of range.
-/
inductive Defect.First (g : Sign) (bs : List UInt8) : Defect → Prop where
  | notDigit {good rest : List UInt8} {b : UInt8} (heq : bs = good ++ b :: rest)
      (hgood : Sound g good) (hb : Byte.isDigit b = false) : First g bs .invalidDigit
  | leavesRange {good rest : List UInt8} {b : UInt8} (heq : bs = good ++ b :: rest)
      (hgood : Sound g good) (hb : Byte.isDigit b = true)
      (hfits : ¬Fits (g.apply (magnitude (good ++ [b])))) : First g bs (.ofSign g)

inductive Defect.Explains : List UInt8 → Defect → Prop where
  | empty : Explains [] .empty
  | loneSign (g : Sign) : Explains [g.byte] .invalidDigit
  | signed {g : Sign} {rest : List UInt8} {d : Defect} (h : First g rest d) :
      Explains (g.byte :: rest) d
  | unsigned {text : List UInt8} {d : Defect} (hsign : ∀ g : Sign, text.head? ≠ some g.byte)
      (h : First .plus text d) : Explains text d

namespace Sound

variable {g : Sign} {bs : List UInt8}

theorem nil (g : Sign) : Sound g [] where
  isDigit_of_mem := by simp
  fits_of_front := by
    intro front hfront
    rw [List.prefix_nil.1 hfront]
    exact fits_apply_zero g

theorem fits (h : Sound g bs) : Fits (g.apply (magnitude bs)) :=
  h.fits_of_front bs (List.prefix_refl bs)

theorem of_append {cs : List UInt8} (h : Sound g (bs ++ cs)) : Sound g bs where
  isDigit_of_mem := fun b hb => h.isDigit_of_mem b (List.mem_append_left cs hb)
  fits_of_front := fun front hfront =>
    h.fits_of_front front (hfront.trans (List.prefix_append bs cs))

theorem concat (h : Sound g bs) {b : UInt8} (hb : Byte.isDigit b = true)
    (hfits : Fits (g.apply (magnitude (bs ++ [b])))) : Sound g (bs ++ [b]) where
  isDigit_of_mem := by
    intro c hc
    rcases List.mem_append.1 hc with hc | hc
    . exact h.isDigit_of_mem c hc
    . rw [List.mem_singleton.1 hc]
      exact hb
  fits_of_front := by
    intro front hfront
    rcases List.prefix_concat_iff.1 hfront with rfl | hfront
    . exact hfits
    . exact h.fits_of_front front hfront

end Sound

theorem Defect.First.ne_nil {g : Sign} {bs : List UInt8} {d : Defect} (h : First g bs d) :
    bs ≠ [] := by
  cases h with
  | notDigit heq => simp [heq]
  | leavesRange heq => simp [heq]

theorem sound_or_first {g : Sign} {front : List UInt8} (hfront : Sound g front)
    (bs : List UInt8) : Sound g (front ++ bs) ∨ ∃ d, Defect.First g (front ++ bs) d := by
  induction bs generalizing front with
  | nil =>
    rw [List.append_nil]
    exact .inl hfront
  | cons b bs ih =>
    by_cases hb : Byte.isDigit b = true
    . by_cases hfits : Fits (g.apply (magnitude (front ++ [b])))
      . have hrest := ih (hfront.concat hb hfits)
        rw [List.append_assoc] at hrest
        exact hrest
      . exact .inr ⟨_, .leavesRange rfl hfront hb hfits⟩
    . exact .inr ⟨_, .notDigit rfl hfront (Bool.not_eq_true _ ▸ hb)⟩

theorem readBounded.go_cons {g : Sign} {front : List UInt8} {b : UInt8}
    (hb : Byte.isDigit b = true) (bs : List UInt8) :
    go g (g.apply (magnitude front)) (b :: bs)
      =
    if Fits (g.apply (magnitude (front ++ [b]))) then
      go g (g.apply (magnitude (front ++ [b]))) bs
    else
      .error (.ofSign g) := by
  rw [go, if_pos hb, magnitude_concat, ← Sign.apply_step]

theorem readBounded.go_append {g : Sign} {front bs : List UInt8} (h : Sound g (front ++ bs))
    (cs : List UInt8) :
    go g (g.apply (magnitude front)) (bs ++ cs)
      = go g (g.apply (magnitude (front ++ bs))) cs := by
  induction bs generalizing front with
  | nil => rw [List.append_nil, List.nil_append]
  | cons b bs ih =>
    have hassoc : front ++ b :: bs = (front ++ [b]) ++ bs := by simp
    rw [hassoc] at h ⊢
    have hb : Byte.isDigit b = true := h.isDigit_of_mem b (by simp)
    rw [List.cons_append, go_cons hb, if_pos h.of_append.fits, ih h]

theorem readBounded.go_of_first {g : Sign} {bs : List UInt8} {d : Defect}
    (h : Defect.First g bs d) : go g (g.apply (magnitude [])) bs = .error d := by
  cases h with
  | notDigit heq hgood hb =>
    rw [heq, go_append hgood, go, if_neg (by simp [hb])]
  | leavesRange heq hgood hb hfits =>
    rw [heq, go_append hgood, List.nil_append, go_cons hb, if_neg hfits]

theorem Defect.Explains.readBounded_eq {text : List UInt8} {d : Defect} (h : Explains text d) :
    readBounded text = .error d := by
  have hzero (g : Sign) : g.apply (magnitude []) = 0 := by cases g <;> rfl
  cases h with
  | empty => rfl
  | loneSign g => cases g <;> rfl
  | @signed g rest _ h =>
    have hempty : rest.isEmpty = false := List.isEmpty_eq_false_iff.2 h.ne_nil
    simp only [readBounded, Sign.ofByte?_byte, hempty]
    rw [← hzero g]
    exact readBounded.go_of_first h
  | unsigned hsign h =>
    cases text with
    | nil => exact absurd rfl h.ne_nil
    | cons b rest =>
      have hb : Sign.ofByte? b = none := by
        cases hg : Sign.ofByte? b with
        | none => rfl
        | some g =>
          rw [Sign.ofByte?_eq_some] at hg
          exact absurd (congrArg some hg) (hsign g)
      rw [readBounded, hb, ← hzero .plus]
      exact readBounded.go_of_first h

theorem Spells.readBounded_eq {n : Numeral} {text : List UInt8} (h : n.Spells text)
    (hfits : Fits n.value) : readBounded text = .ok (Int64.ofInt n.value) := by
  rw [h.bytes_eq, readBounded_bytes n h.digits_ne_nil h.isDigit_of_mem_digits, if_pos hfits]

theorem spells_or_explains (text : List UInt8) :
    (∃ n : Numeral, n.Spells text ∧ Fits n.value) ∨ ∃ d, Defect.Explains text d := by
  cases text with
  | nil => exact .inr ⟨_, .empty⟩
  | cons b rest =>
    cases hg : Sign.ofByte? b with
    | some g =>
      rw [Sign.ofByte?_eq_some] at hg
      subst hg
      cases hrest : rest with
      | nil => exact .inr ⟨_, .loneSign g⟩
      | cons c cs =>
        rw [← hrest]
        rcases sound_or_first (.nil g) rest with h | ⟨d, h⟩
        . exact .inl ⟨⟨some g, rest⟩, ⟨rfl, by simp [hrest], h.isDigit_of_mem⟩, h.fits⟩
        . exact .inr ⟨d, .signed h⟩
    | none =>
      rcases sound_or_first (.nil .plus) (b :: rest) with h | ⟨d, h⟩
      . exact .inl ⟨⟨none, b :: rest⟩, ⟨rfl, by simp, h.isDigit_of_mem⟩, h.fits⟩
      . refine .inr ⟨d, .unsigned ?_ h⟩
        intro g hhead
        cases hhead
        rw [Sign.ofByte?_byte] at hg
        cases hg

theorem readBounded_eq_ok_iff {text : List UInt8} {v : Int64} :
    readBounded text = .ok v ↔ ∃ n : Numeral, n.Spells text ∧ v.toInt = n.value := by
  constructor
  . intro hread
    rcases spells_or_explains text with ⟨n, h, hfits⟩ | ⟨d, h⟩
    . rw [h.readBounded_eq hfits] at hread
      cases hread
      exact ⟨n, h, toInt_ofInt hfits⟩
    . rw [h.readBounded_eq] at hread
      cases hread
  . rintro ⟨n, h, hv⟩
    have hfits : Fits n.value := hv ▸ fits_toInt v
    rw [h.readBounded_eq hfits, ← hv, Int64.ofInt_toInt]

theorem readBounded_eq_error_iff {text : List UInt8} {d : Defect} :
    readBounded text = .error d ↔ d.Explains text := by
  constructor
  . intro hread
    rcases spells_or_explains text with ⟨n, h, hfits⟩ | ⟨d', h⟩
    . rw [h.readBounded_eq hfits] at hread
      cases hread
    . rw [h.readBounded_eq] at hread
      cases hread
      exact h
  . exact fun h => h.readBounded_eq

end Numeral

end IntConsole
