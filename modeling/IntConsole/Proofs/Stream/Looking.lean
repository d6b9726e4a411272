import IntConsole.Proofs.Stream.Consumption

/-!
This module contains the looks at an input one by one. The main statement takes a run apart into its
first look and what comes behind it.
-/

namespace IntConsole

namespace Input

theorem readWhile.go_data_nil (p : UInt8 → Bool) (position : Nat) (es : List Event) :
    go p position (.data [] :: es) = go p position es := rfl

theorem readWhile.go_data_cons_of_neg {p : UInt8 → Bool} {b : UInt8} (hb : ¬p b = true)
    (position : Nat) (bs : List UInt8) (es : List Event) :
    go p position (.data (b :: bs) :: es) = ⟨[], .byte b, ⟨b :: bs, es, position⟩⟩ := by
  simp [go, List.dropWhile_cons_of_neg hb, List.takeWhile_cons_of_neg hb]

theorem readWhile.go_data_cons_of_pos {p : UInt8 → Bool} {b : UInt8} (hb : p b = true)
    (position : Nat) (bs : List UInt8) (es : List Event) :
    go p position (.data (b :: bs) :: es)
      =
    let run := go p (position + 1) (.data bs :: es)
    { run with bytes := b :: run.bytes } := by
  rw [go, go, List.dropWhile_cons_of_pos hb, List.takeWhile_cons_of_pos hb]
  cases bs.dropWhile p with
  | nil => simp [Nat.add_comm, Nat.add_left_comm]
  | cons => simp [Nat.add_comm, Nat.add_left_comm]

def continueRun (p : UInt8 → Bool) (sight : Sight) (t : Input) : Run :=
  match sight with
  | .byte b =>
    if p b then
      let run := t.advance.readWhile p
      { run with bytes := b :: run.bytes }
    else
      ⟨[], sight, t⟩
  | _ => ⟨[], sight, t⟩

theorem readWhile.go_eq_continueRun (p : UInt8 → Bool) (position : Nat) (es : List Event) :
    go p position es
      =
    continueRun p (go (fun _ => false) position es).sight
      (go (fun _ => false) position es).rest := by
  induction es with
  | nil => rfl
  | cons e es ih =>
    cases e with
    | data bs =>
      cases bs with
      | nil =>
        rw [go_data_nil, go_data_nil]
        exact ih
      | cons b bs =>
        rw [go_data_cons_of_neg (p := fun _ => false) Bool.false_ne_true, continueRun]
        by_cases hb : p b = true
        . rw [if_pos hb, go_data_cons_of_pos hb]
          rfl
        . rw [if_neg hb, go_data_cons_of_neg hb]
    | endOfInput => rfl
    | fault f =>
      rw [go, go]
      split
      . exact ih
      . rfl

theorem readWhile_eq_continueRun (p : UInt8 → Bool) (s : Input) :
    s.readWhile p = continueRun p s.look.sight s.look.rest :=
  readWhile.go_eq_continueRun p _ _

section

variable {p : UInt8 → Bool} {s : Input}

theorem readWhile_of_byte {b : UInt8} (hsight : s.look.sight = .byte b) (hb : p b = true) :
    s.readWhile p
      =
    let run := s.look.rest.advance.readWhile p
    { run with bytes := b :: run.bytes } := by
  rw [readWhile_eq_continueRun, hsight, continueRun, if_pos hb]

theorem readWhile_of_not (h : ∀ b, s.look.sight = .byte b → p b = false) :
    s.readWhile p = ⟨[], s.look.sight, s.look.rest⟩ := by
  rw [readWhile_eq_continueRun]
  cases hsight : s.look.sight with
  | byte b => rw [continueRun, if_neg (Bool.not_eq_true _ ▸ h b hsight)]
  | endOfInput => rfl
  | fault f => rfl

end

theorem look_of_chunk_eq {s : Input} {b : UInt8} {rest : List UInt8} (h : s.chunk = b :: rest) :
    s.look = ⟨[], .byte b, s⟩ := by
  rw [look, readWhile, h, readWhile.go_data_cons_of_neg Bool.false_ne_true, ← h]

theorem look_look_of_byte {s : Input} {b : UInt8} (h : s.look.sight = .byte b) :
    s.look.rest.look = ⟨[], .byte b, s.look.rest⟩ := by
  obtain ⟨-, rest, hchunk⟩ := sight_readWhile_eq_byte h
  exact look_of_chunk_eq hchunk

theorem readWhile.chunk_of_endOfInput (p : UInt8 → Bool) (position : Nat) (es : List Event)
    (h : (go p position es).sight = .endOfInput) : (go p position es).rest.chunk = [] := by
  fun_induction go p position es with
  | case1 => rfl
  | case2 position bs es _ run ih => exact ih h
  | case3 => cases h
  | case4 => rfl
  | case5 position f es _ ih => exact ih h
  | case6 => rfl

theorem chunk_look_of_endOfInput {s : Input} (h : s.look.sight = .endOfInput) :
    s.look.rest.chunk = [] :=
  readWhile.chunk_of_endOfInput _ _ _ h

theorem look_of_exhausted {s : Input} (hchunk : s.chunk = []) (hpending : s.pending = []) :
    s.look = ⟨[], .endOfInput, s⟩ := by
  obtain ⟨chunk, pending, position⟩ := s
  cases hchunk
  cases hpending
  rfl

theorem pending_advance (s : Input) : s.advance.pending = s.pending := by
  rw [advance]
  split <;> rfl

theorem length_pending_look_lt {s : Input} (hchunk : s.chunk = []) (hpending : s.pending ≠ []) :
    s.look.rest.pending.length < s.pending.length := by
  obtain ⟨taken, hhead, htaken, -⟩ :=
    readWhile.consumes_go (fun _ => false) s.position s.pending
  have hlook : s.look = readWhile.go (fun _ => false) s.position s.pending := by
    rw [look, readWhile, hchunk, readWhile.go_data_nil]
  rw [← hlook] at htaken
  cases taken with
  | nil => exact absurd (List.head?_eq_none_iff.1 hhead.symm) hpending
  | cons e taken =>
    rw [htaken, List.length_append, List.length_cons]
    omega

theorem Consumes.length_pending_le {s t : Input} {bs : List UInt8} {es : List Event}
    (h : s.Consumes bs es t) : t.pending.length ≤ s.pending.length := by
  rw [h.pending_eq, List.length_append]
  omega

end Input

end IntConsole
