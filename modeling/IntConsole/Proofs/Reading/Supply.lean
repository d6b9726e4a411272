import IntConsole.Proofs.Reading.Looks

/-!
This module contains what a read comes to when more input arrives later. The main statement is that
a read which leaves the mark behind what has arrived comes to the same whatever arrives in its
place.
-/

namespace IntConsole

namespace Input

theorem advance_supply (s : Input) (es : List Event) :
    (s.supply es).advance = s.advance.supply es := by
  obtain ⟨chunk, pending, position⟩ := s
  cases chunk <;> rfl

theorem readWhile.go_supply (position : Nat) (es : List Event) :
    (∃ (sight : Sight) (t : Input), ∀ fs,
        go (fun _ => false) position (es ++ fs) = ⟨[], sight, t.supply fs⟩)
      ∨ go (fun _ => false) position (es ++ [.fault .notReady])
          = ⟨[], .fault .notReady, ⟨[], [], position⟩⟩ := by
  induction es with
  | nil => exact .inr rfl
  | cons e es ih =>
    cases e with
    | data bs =>
      cases bs with
      | nil => exact ih
      | cons b bs =>
        refine .inl ⟨.byte b, ⟨b :: bs, es, position⟩, ?_⟩
        intro fs
        rw [List.cons_append, go_data_cons_of_neg Bool.false_ne_true]
        rfl
    | endOfInput => exact .inl ⟨.endOfInput, ⟨[], es, position⟩, fun _ => rfl⟩
    | fault f =>
      by_cases hf : f.kind = .interrupted
      . have hgo : ∀ fs, go (fun _ => false) position (.fault f :: es ++ fs)
            = go (fun _ => false) position (es ++ fs) := by
          intro fs
          rw [List.cons_append, go, if_pos hf]
        simp only [hgo]
        exact ih
      . refine .inl ⟨.fault f, ⟨[], es, position⟩, ?_⟩
        intro fs
        rw [List.cons_append, go, if_neg hf]
        rfl

theorem look_supply (s : Input) :
    (∃ (sight : Sight) (t : Input), ∀ es, (s.supply es).look = ⟨[], sight, t.supply es⟩)
      ∨ s.mark.look = ⟨[], .fault .notReady, ⟨[], [], s.position⟩⟩ :=
  readWhile.go_supply s.position (.data s.chunk :: s.pending)

end Input

namespace Reading

theorem Look.settled_or_asks (stage : Stage) (s : Input) :
    (∃ u : Input, rest ⟨stage, s.mark⟩ = u.mark
        ∧ ∀ es, rest ⟨stage, s.supply es⟩ = u.supply es
          ∧ move ⟨stage, s.supply es⟩ = move ⟨stage, s.mark⟩)
      ∨ (rest ⟨stage, s.mark⟩).pending = []
        ∧ move ⟨stage, s.mark⟩ = .answer (.error (.stream .notReady)) := by
  rcases s.look_supply with ⟨sight, u, hlook⟩ | hlook
  . have hsight : ∀ es, sight = (s.supply es).look.sight := fun es => by rw [hlook es]
    refine .inl ⟨u, congrArg Run.rest (hlook _), ?_⟩
    intro es
    refine ⟨congrArg Run.rest (hlook es), ?_⟩
    exact congrArg stage.move ((hsight es).symm.trans (hsight _))
  . refine .inr ⟨congrArg (fun run => run.rest.pending) hlook, ?_⟩
    rw [move, sight, hlook, Stage.move_fault]

theorem Looks.of_mark {stage : Stage} {s t : Input} {ls : List Look}
    {result : Except ReadFailure Int64} (h : Looks ⟨stage, s.mark⟩ ls result t) :
    t.pending = [] ∨ ∃ u : Input, t = u.mark
      ∧ ∀ es, Comes ⟨stage, s.supply es⟩ result (u.supply es) := by
  generalize hl : (⟨stage, s.mark⟩ : Look) = l at h
  induction h generalizing stage s with
  | @answer l result hmove =>
    subst hl
    rcases Look.settled_or_asks stage s with ⟨u, hrest, hsupply⟩ | ⟨hnil, -⟩
    . refine .inr ⟨u, hrest, ?_⟩
      intro es
      obtain ⟨hrest', hmove'⟩ := hsupply es
      rw [← hrest']
      exact comes_of_answer (hmove'.trans hmove)
    . exact .inl hnil
  | @stay l next ls result t hmove _ ih =>
    subst hl
    rcases Look.settled_or_asks stage s with ⟨u, hrest, hsupply⟩ | ⟨-, hasks⟩
    . rw [hrest] at ih
      rcases ih rfl with hnil | ⟨v, ht, hcomes⟩
      . exact .inl hnil
      . refine .inr ⟨v, ht, ?_⟩
        intro es
        obtain ⟨hrest', hmove'⟩ := hsupply es
        have hnext := hcomes es
        rw [← hrest'] at hnext
        exact hnext.of_stay (hmove'.trans hmove)
    . rw [hmove] at hasks
      cases hasks
  | @read l next ls result t hmove _ ih =>
    subst hl
    rcases Look.settled_or_asks stage s with ⟨u, hrest, hsupply⟩ | ⟨-, hasks⟩
    . rw [hrest] at ih
      rcases ih (congrArg (Look.mk next) (u.advance_supply _).symm) with hnil | ⟨v, ht, hcomes⟩
      . exact .inl hnil
      . refine .inr ⟨v, ht, ?_⟩
        intro es
        obtain ⟨hrest', hmove'⟩ := hsupply es
        have hnext := hcomes es
        rw [← Input.advance_supply, ← hrest'] at hnext
        exact hnext.of_read (hmove'.trans hmove)
    . rw [hmove] at hasks
      cases hasks

end Reading

namespace Input

open Reading

theorem readInt_supply (s : Input) :
    s.mark.readInt.2.pending = [] ∨ ∃ t : Input, s.mark.readInt.2 = t.mark
      ∧ ∀ es, (s.supply es).readInt = (s.mark.readInt.1, t.supply es) := by
  obtain ⟨ls, hlooks⟩ := s.mark.comes_readInt
  rcases hlooks.of_mark with hnil | ⟨t, ht, hcomes⟩
  . exact .inl hnil
  . refine .inr ⟨t, ht, ?_⟩
    intro es
    obtain ⟨ls', hlooks'⟩ := hcomes es
    obtain ⟨ls'', hread⟩ := (s.supply es).comes_readInt
    obtain ⟨-, hresult, hrest⟩ := hlooks'.unique hread
    exact Prod.ext hresult hrest

end Input

end IntConsole
