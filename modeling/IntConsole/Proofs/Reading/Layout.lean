import IntConsole.Proofs.Numeral.Bounded
import IntConsole.Proofs.Stream.Serving

/-!
This module contains the only way to cut a text into white space, a numeral and what comes behind it
such that each part is as long as it can be. The main statement is that reading an integer makes
this cut and answers with the integer that the numeral denotes, however long the numeral is.
-/

namespace IntConsole

theorem Byte.isSpace_of_isDigit {b : UInt8} (h : isDigit b = true) : isSpace b = false := by
  rw [Bool.eq_false_iff]
  intro hspace
  rw [isDigit_iff] at h
  rw [isSpace_iff] at hspace
  simp only [List.mem_cons, List.not_mem_nil, or_false] at hspace
  rcases hspace with rfl | rfl | rfl | rfl | rfl | rfl <;> exact absurd h.1 (by decide)

theorem Sign.isSpace_byte (g : Sign) : Byte.isSpace g.byte = false := by
  cases g <;> rfl

def Sign.split : List UInt8 → Option Sign × List UInt8
  | [] => (none, [])
  | b :: rest =>
    match ofByte? b with
    | some g => (some g, rest)
    | none => (none, b :: rest)

theorem Sign.byte_append_split (bs : List UInt8) :
    ((split bs).1.map byte).toList ++ (split bs).2 = bs := by
  cases bs with
  | nil => rfl
  | cons b rest =>
    rw [split]
    cases h : ofByte? b with
    | none => rfl
    | some g =>
      rw [ofByte?_eq_some] at h
      subst h
      rfl

theorem Sign.ofByte?_of_split {bs : List UInt8} (h : (split bs).1 = none) {b : UInt8}
    (hb : (split bs).2.head? = some b) : ofByte? b = none := by
  cases bs with
  | nil => cases hb
  | cons c rest =>
    rw [split] at h hb
    cases hc : ofByte? c with
    | none =>
      rw [hc] at hb
      cases hb
      exact hc
    | some g =>
      rw [hc] at h
      cases h

structure Layout where
  blank : List UInt8
  numeral : Numeral
  rest : List UInt8

namespace Layout

/--
The layout is a way to cut the text, where the white space is as long as it can be, a sign behind it
belongs to the numeral and the digits are as many as there are.
-/
structure Splits (l : Layout) (bs : List UInt8) : Prop where
  bytes_eq : bs = l.blank ++ (l.numeral.bytes ++ l.rest)
  isSpace_of_mem_blank : ∀ b ∈ l.blank, Byte.isSpace b = true
  blank_longest : ∀ b, (l.numeral.bytes ++ l.rest).head? = some b → Byte.isSpace b = false
  sign_taken : l.numeral.sign = none →
    ∀ b, (l.numeral.digits ++ l.rest).head? = some b → Sign.ofByte? b = none
  isDigit_of_mem_digits : ∀ b ∈ l.numeral.digits, Byte.isDigit b = true
  digits_longest : ∀ b, l.rest.head? = some b → Byte.isDigit b = false

def of (bs : List UInt8) : Layout :=
  let (sign, tail) := Sign.split (bs.dropWhile Byte.isSpace)
  ⟨bs.takeWhile Byte.isSpace, ⟨sign, tail.takeWhile Byte.isDigit⟩, tail.dropWhile Byte.isDigit⟩

theorem splits_of (bs : List UInt8) : (of bs).Splits bs := by
  have hnumeral : (of bs).numeral.bytes ++ (of bs).rest = bs.dropWhile Byte.isSpace := by
    dsimp only [of, Numeral.bytes]
    rw [List.append_assoc, List.takeWhile_append_dropWhile, Sign.byte_append_split]
  constructor
  . rw [hnumeral]
    exact List.takeWhile_append_dropWhile.symm
  . exact fun b hb => List.mem_takeWhile_imp hb
  . rw [hnumeral]
    intro b
    exact Input.not_of_head?_dropWhile
  . dsimp only [of]
    rw [List.takeWhile_append_dropWhile]
    intro hsign b hb
    exact Sign.ofByte?_of_split hsign hb
  . exact fun b hb => List.mem_takeWhile_imp hb
  . intro b
    exact Input.not_of_head?_dropWhile

theorem span_append {p : UInt8 → Bool} {bs cs : List UInt8} (hbs : ∀ b ∈ bs, p b = true)
    (hcs : ∀ b, cs.head? = some b → p b = false) :
    (bs ++ cs).takeWhile p = bs ∧ (bs ++ cs).dropWhile p = cs := by
  rw [List.takeWhile_append_of_pos hbs, List.dropWhile_append_of_pos hbs]
  cases cs with
  | nil => simp
  | cons c cs =>
    have hc : ¬p c = true := by simp [hcs c rfl]
    rw [List.takeWhile_cons_of_neg hc, List.dropWhile_cons_of_neg hc, List.append_nil]
    exact ⟨rfl, rfl⟩

theorem Splits.split_eq {l : Layout} {bs : List UInt8} (h : l.Splits bs) :
    Sign.split (l.numeral.bytes ++ l.rest) = (l.numeral.sign, l.numeral.digits ++ l.rest) := by
  rcases l with ⟨blank, ⟨sign, digits⟩, rest⟩
  cases sign with
  | some g => simp [Numeral.bytes, Sign.split]
  | none =>
    have htaken := h.sign_taken rfl
    simp only [Numeral.bytes, Option.map_none, Option.toList_none, List.nil_append] at htaken ⊢
    cases hbs : digits ++ rest with
    | nil => rfl
    | cons b tail =>
      have hb : Sign.ofByte? b = none := htaken b (by rw [hbs]; rfl)
      rw [Sign.split, hb]

theorem Splits.eq_of {l : Layout} {bs : List UInt8} (h : l.Splits bs) : l = of bs := by
  obtain ⟨hblank, htail⟩ := span_append h.isSpace_of_mem_blank h.blank_longest
  obtain ⟨hdigits, hrest⟩ := span_append h.isDigit_of_mem_digits h.digits_longest
  rw [of, h.bytes_eq, hblank, htail, h.split_eq]
  dsimp only
  rw [hdigits, hrest]

theorem splits_numeral {blank : List UInt8} (hblank : ∀ b ∈ blank, Byte.isSpace b = true)
    {n : Numeral} (hne : n.digits ≠ []) (hdigits : ∀ b ∈ n.digits, Byte.isDigit b = true)
    {rest : List UInt8} (hrest : ∀ b, rest.head? = some b → Byte.isDigit b = false) :
    Splits ⟨blank, n, rest⟩ (blank ++ (n.bytes ++ rest)) := by
  obtain ⟨d, digits, hcons⟩ := List.exists_cons_of_ne_nil hne
  have hd : Byte.isDigit d = true := by
    apply hdigits
    rw [hcons]
    exact List.mem_cons_self
  refine ⟨rfl, hblank, ?_, ?_, hdigits, hrest⟩
  . intro b hb
    dsimp only [Numeral.bytes] at hb
    rw [hcons] at hb
    cases hsign : n.sign with
    | none =>
      rw [hsign] at hb
      cases hb
      exact Byte.isSpace_of_isDigit hd
    | some g =>
      rw [hsign] at hb
      cases hb
      exact Sign.isSpace_byte g
  . intro hsign b hb
    dsimp only at hb
    rw [hcons] at hb
    cases hb
    exact Sign.ofByte?_eq_none_of_isDigit hd

theorem of_numeral {n : Numeral} (hne : n.digits ≠ [])
    (hdigits : ∀ b ∈ n.digits, Byte.isDigit b = true) {rest : List UInt8}
    (hrest : ∀ b, rest.head? = some b → Byte.isDigit b = false) :
    of (n.bytes ++ rest) = ⟨[], n, rest⟩ := by
  symm
  apply Splits.eq_of
  apply splits_numeral _ hne hdigits hrest
  simp

theorem splits_blank {blank : List UInt8} (hblank : ∀ b ∈ blank, Byte.isSpace b = true) :
    Splits ⟨blank, ⟨none, []⟩, []⟩ blank := by
  refine ⟨?_, hblank, ?_, ?_, ?_, ?_⟩
  . simp [Numeral.bytes]
  . simp [Numeral.bytes]
  . simp
  . simp
  . simp

def outcome (l : Layout) : Except ReadFailure Int64 :=
  match l.numeral.digits, l.rest with
  | [], [] => .error .endOfInput
  | [], b :: _ => .error (.malformed b)
  | _ :: _, _ => l.numeral.toInt64

theorem outcome_of_ne_nil {l : Layout} (h : l.numeral.digits ≠ []) :
    l.outcome = l.numeral.toInt64 := by
  unfold outcome
  split
  . next hdigits _ => exact absurd hdigits h
  . next hdigits _ => exact absurd hdigits h
  . rfl

theorem outcome_of_eq_nil {l : Layout} (h : l.numeral.digits = []) :
    l.outcome = .error (l.rest.head?.elim .endOfInput .malformed) := by
  unfold outcome
  rw [h]
  cases l.rest <;> rfl

variable {l : Layout} (hdigits : ∀ b ∈ l.numeral.digits, Byte.isDigit b = true)

include hdigits in
theorem outcome_eq_ok_iff (v : Int64) :
    l.outcome = .ok v
      ↔
    l.numeral.digits ≠ [] ∧ Numeral.Fits l.numeral.value ∧ v.toInt = l.numeral.value := by
  by_cases h : l.numeral.digits = []
  . simp [outcome_of_eq_nil h, h]
  . rw [outcome_of_ne_nil h, Numeral.toInt64_eq_ok hdigits]
    simp [h]

include hdigits in
theorem outcome_eq_outOfRange_iff :
    (∃ literal, l.outcome = .error (.outOfRange literal))
      ↔
    l.numeral.digits ≠ [] ∧ ¬Numeral.Fits l.numeral.value := by
  by_cases h : l.numeral.digits = []
  . rw [outcome_of_eq_nil h]
    cases l.rest <;> simp [h]
  . rw [outcome_of_ne_nil h]
    simp [Numeral.toInt64_eq_error hdigits, h]

include hdigits in
theorem outcome_eq_endOfInput_iff :
    l.outcome = .error .endOfInput ↔ l.numeral.digits = [] ∧ l.rest = [] := by
  by_cases h : l.numeral.digits = []
  . rw [outcome_of_eq_nil h]
    cases l.rest <;> simp [h]
  . rw [outcome_of_ne_nil h, Numeral.toInt64_eq_error hdigits]
    simp [h]

include hdigits in
theorem outcome_eq_malformed_iff (b : UInt8) :
    l.outcome = .error (.malformed b) ↔ l.numeral.digits = [] ∧ l.rest.head? = some b := by
  by_cases h : l.numeral.digits = []
  . rw [outcome_of_eq_nil h]
    cases l.rest <;> simp [h]
  . rw [outcome_of_ne_nil h, Numeral.toInt64_eq_error hdigits]
    simp [h]

end Layout

namespace Input

theorem Serves.readDigits_eq {s : Input} {bs : List UInt8} (h : s.Serves bs) (blank : List UInt8)
    (sign : Option Sign) :
    (s.readDigits sign).1
        =
      Layout.outcome ⟨blank, ⟨sign, bs.takeWhile Byte.isDigit⟩, bs.dropWhile Byte.isDigit⟩
      ∧ (s.readDigits sign).2.Serves (bs.dropWhile Byte.isDigit) := by
  have hrest := h.rest_readWhile Byte.isDigit
  have hlook := hrest.sight_look
  unfold readDigits Layout.outcome
  dsimp only
  rw [h.sight_readWhile, h.bytes_readWhile]
  generalize bs.takeWhile Byte.isDigit = digits
  -- Without digits there is a second look, which sees the same as the first one.
  cases hdrop : bs.dropWhile Byte.isDigit with
  | nil =>
    rw [hdrop] at hrest hlook
    cases digits with
    | nil =>
      dsimp only [Sight.front]
      rw [hlook]
      exact ⟨rfl, hrest.rest_look⟩
    | cons => exact ⟨rfl, hrest⟩
  | cons b rest =>
    rw [hdrop] at hrest hlook
    cases digits with
    | nil =>
      dsimp only [Sight.front]
      rw [hlook]
      exact ⟨rfl, hrest.rest_look⟩
    | cons => exact ⟨rfl, hrest⟩

theorem Serves.readSigned_eq {s : Input} {bs : List UInt8} (h : s.Serves bs) (blank : List UInt8) :
    s.readSigned.1
        =
      Layout.outcome ⟨blank, ⟨(Sign.split bs).1, (Sign.split bs).2.takeWhile Byte.isDigit⟩,
        (Sign.split bs).2.dropWhile Byte.isDigit⟩
      ∧ s.readSigned.2.Serves ((Sign.split bs).2.dropWhile Byte.isDigit) := by
  have hsight := h.sight_look
  unfold readSigned
  dsimp only
  rw [hsight]
  cases bs with
  | nil => exact ⟨rfl, h.rest_look⟩
  | cons b rest =>
    dsimp only [Sight.front, Sign.split]
    cases Sign.ofByte? b with
    | some g => exact h.rest_advance.readDigits_eq blank (some g)
    | none => exact h.rest_look.readDigits_eq blank none

theorem Serves.readInt_eq {s : Input} {bs : List UInt8} (h : s.Serves bs) :
    s.readInt.1 = (Layout.of bs).outcome ∧ s.readInt.2.Serves (Layout.of bs).rest := by
  have hsigned := (h.rest_readWhile Byte.isSpace).readSigned_eq (bs.takeWhile Byte.isSpace)
  unfold readInt
  dsimp only
  rw [h.sight_readWhile]
  cases hdrop : bs.dropWhile Byte.isSpace with
  | nil => exact hsigned
  | cons b rest => exact hsigned

theorem Serves.readInt_numeral {s : Input} {n : Numeral} (hne : n.digits ≠ [])
    (hdigits : ∀ b ∈ n.digits, Byte.isDigit b = true) {rest : List UInt8}
    (hrest : ∀ b, rest.head? = some b → Byte.isDigit b = false) (h : s.Serves (n.bytes ++ rest)) :
    s.readInt.1 = n.toInt64 ∧ s.readInt.2.Serves rest := by
  have hread := h.readInt_eq
  rw [Layout.of_numeral hne hdigits hrest, Layout.outcome_of_ne_nil hne] at hread
  exact hread

/--
A text that is served to its final end is cut in the only possible way. The rest stays unread, and
the result is the integer that the numeral denotes, unless it is too large for 64 bits or there are
no digits. In the last case it tells what stands in their place.
-/
theorem readInt_of_serves {s : Input} {bs : List UInt8} (h : s.Serves bs) :
    ∃ l : Layout, l.Splits bs ∧ (∀ l' : Layout, l'.Splits bs → l' = l)
      ∧ s.readInt.2.Serves l.rest
      ∧ (∀ v : Int64, s.readInt.1 = .ok v
          ↔ l.numeral.digits ≠ [] ∧ Numeral.Fits l.numeral.value ∧ v.toInt = l.numeral.value)
      ∧ ((∃ literal, s.readInt.1 = .error (.outOfRange literal))
          ↔ l.numeral.digits ≠ [] ∧ ¬Numeral.Fits l.numeral.value)
      ∧ (s.readInt.1 = .error .endOfInput ↔ l.numeral.digits = [] ∧ l.rest = [])
      ∧ ∀ b, s.readInt.1 = .error (.malformed b)
          ↔ l.numeral.digits = [] ∧ l.rest.head? = some b := by
  have hsplits := Layout.splits_of bs
  have hdigits := hsplits.isDigit_of_mem_digits
  obtain ⟨hresult, hrest⟩ := h.readInt_eq
  refine ⟨Layout.of bs, hsplits, fun l' h' => h'.eq_of, hrest, ?_⟩
  rw [hresult]
  refine ⟨?_, ?_, ?_, ?_⟩
  . exact Layout.outcome_eq_ok_iff hdigits
  . exact Layout.outcome_eq_outOfRange_iff hdigits
  . exact Layout.outcome_eq_endOfInput_iff hdigits
  . exact Layout.outcome_eq_malformed_iff hdigits

theorem readInt_of_serves_chunks :
    let s : Input := {
      chunk := [32, 10]
      pending := [.data [45, 48], .fault ⟨.interrupted, none⟩, .data [], .data [52, 50, 120]]
    }
    s.Serves [32, 10, 45, 48, 52, 50, 120]
      ∧ s.readInt.1 = .ok (-42) ∧ s.readInt.2.Serves [120] := by
  intro s
  have hserves : s.Serves [32, 10, 45, 48, 52, 50, 120] := by
    rw [serves_iff]
    decide
  obtain ⟨l, hsplits, -, hrest, hok, -⟩ := readInt_of_serves hserves
  have hl : l = ⟨[32, 10], ⟨some .minus, [48, 52, 50]⟩, [120]⟩ := hsplits.eq_of
  rw [hl] at hrest hok
  exact ⟨hserves, (hok (-42)).2 ⟨by decide, by decide, by decide⟩, hrest⟩

end Input

end IntConsole
