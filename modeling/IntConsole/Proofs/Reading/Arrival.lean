import IntConsole.Proofs.Reading.Intake
import IntConsole.Proofs.Stream.Arrival

/-!
This module contains the proof that reading integers does not depend on the way in which bytes
arrive: at every look of the reader two equivalent inputs show the same, and what they leave behind
is equivalent again.
-/

namespace IntConsole

namespace Input

section

variable {s t : Input} (h : s.signals = t.signals)
include h

theorem sight_look_congr : s.look.sight = t.look.sight :=
  sight_readWhile_congr h

theorem signals_look_congr : s.look.rest.signals = t.look.rest.signals :=
  signals_readWhile_congr h

theorem signals_advance_congr {b : UInt8} (hb : t.look.sight = .byte b) :
    s.look.rest.advance.signals = t.look.rest.advance.signals := by
  have hs : s.look.sight = .byte b := (sight_look_congr h).trans hb
  have hrest := signals_look_congr h
  rw [signals_of_look_eq_byte hs, signals_of_look_eq_byte hb] at hrest
  exact List.tail_eq_of_cons_eq hrest

theorem readDigits_congr (sign : Option Sign) :
    (s.readDigits sign).1 = (t.readDigits sign).1
      ∧ (s.readDigits sign).2.signals = (t.readDigits sign).2.signals := by
  have hrest := signals_readWhile_congr (p := Byte.isDigit) h
  have hlook := signals_look_congr hrest
  unfold readDigits
  dsimp only
  rw [sight_readWhile_congr h, bytes_readWhile_congr h, sight_look_congr hrest]
  split
  . exact ⟨rfl, hrest⟩
  . split
    . exact ⟨rfl, hlook⟩
    . exact ⟨rfl, hlook⟩
    . exact ⟨rfl, hlook⟩
  . exact ⟨rfl, hrest⟩

theorem readSigned_congr :
    s.readSigned.1 = t.readSigned.1 ∧ s.readSigned.2.signals = t.readSigned.2.signals := by
  have hlook := signals_look_congr h
  unfold readSigned
  dsimp only
  rw [sight_look_congr h]
  split
  . exact ⟨rfl, hlook⟩
  . exact ⟨rfl, hlook⟩
  . next b hb =>
    cases Sign.ofByte? b with
    | some g => exact readDigits_congr (signals_advance_congr h hb) (some g)
    | none => exact readDigits_congr hlook none

theorem readInt_congr : s.readInt.1 = t.readInt.1 ∧ s.readInt.2.signals = t.readInt.2.signals := by
  have hrest := signals_readWhile_congr (p := Byte.isSpace) h
  unfold readInt
  dsimp only
  rw [sight_readWhile_congr h]
  split
  . exact ⟨rfl, hrest⟩
  . exact readSigned_congr hrest

theorem position_readInt_congr :
    s.readInt.2.position + t.position = t.readInt.2.position + s.position := by
  obtain ⟨i, hi⟩ := s.exists_explains_readInt
  obtain ⟨j, hj⟩ := t.exists_explains_readInt
  -- What has been read is what is missing from the data, and the data are the same.
  have hs := hi.consumes.position_add_length_data
  have ht := hj.consumes.position_add_length_data
  rw [data_congr h, data_congr (readInt_congr h).2] at hs
  omega

end

end Input

end IntConsole
