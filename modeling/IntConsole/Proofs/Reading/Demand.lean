import IntConsole.Proofs.Reading.Looks
import IntConsole.Proofs.Reading.Progress

/-!
This module contains the answer to when the reader of integers asks for more than the current chunk.
Looks that find a byte in the chunk come to the same whatever is pending behind it, so a read that
consists of such looks does not depend on pending events and takes none. The main statement is that
a read is of this kind exactly if the byte that ends the numeral is in the chunk already.
-/

namespace IntConsole

namespace Input

def withPending (s : Input) (es : List Event) : Input :=
  { s with pending := es }

theorem advance_withPending (s : Input) (es : List Event) :
    (s.withPending es).advance = s.advance.withPending es := by
  obtain ⟨chunk, pending, position⟩ := s
  cases chunk <;> rfl

theorem exists_look_withPending_eq {s : Input} (h : s.chunk ≠ []) :
    ∃ b, ∀ es, (s.withPending es).look = ⟨[], .byte b, s.withPending es⟩ := by
  obtain ⟨b, rest, hchunk⟩ := List.exists_cons_of_ne_nil h
  refine ⟨b, ?_⟩
  intro es
  apply look_of_chunk_eq
  exact hchunk

end Input

namespace Reading

namespace Look

def withPending (l : Look) (es : List Event) : Look where
  stage := l.stage
  input := l.input.withPending es

variable {l : Look} (h : l.input.chunk ≠ [])
include h

theorem sight_withPending (es : List Event) : (l.withPending es).sight = l.sight := by
  obtain ⟨b, hlook⟩ := Input.exists_look_withPending_eq h
  calc (l.withPending es).sight
    _ = .byte b := congrArg Run.sight (hlook es)
    _ = l.sight := (congrArg Run.sight (hlook l.input.pending)).symm

theorem rest_withPending (es : List Event) :
    (l.withPending es).rest = l.input.withPending es := by
  obtain ⟨b, hlook⟩ := Input.exists_look_withPending_eq h
  exact congrArg Run.rest (hlook es)

theorem rest_eq_input : l.rest = l.input :=
  rest_withPending h l.input.pending

theorem exists_sight_eq_byte : ∃ b, l.sight = .byte b := by
  obtain ⟨b, hlook⟩ := Input.exists_look_withPending_eq h
  exact ⟨b, congrArg Run.sight (hlook l.input.pending)⟩

theorem move_withPending (es : List Event) : (l.withPending es).move = l.move := by
  rw [move, move, sight_withPending h]
  rfl

end Look

namespace Looks

variable {l : Look} {ls : List Look} {result : Except ReadFailure Int64} {t : Input}

theorem withPending (h : Looks l ls result t) (hchunk : ∀ l' ∈ ls, l'.input.chunk ≠ [])
    (es : List Event) :
    Looks (l.withPending es) (ls.map (Look.withPending · es)) result (t.withPending es) := by
  induction h with
  | @answer l result hmove =>
    have hl := hchunk l List.mem_cons_self
    rw [Look.rest_eq_input hl, ← Look.rest_withPending hl]
    apply answer
    rw [Look.move_withPending hl, hmove]
  | @stay l next ls result t hmove _ ih =>
    have hl := hchunk l List.mem_cons_self
    have hls := ih fun l' hl' => hchunk l' (List.mem_cons_of_mem l hl')
    rw [Look.rest_eq_input hl] at hls
    apply stay
    . rw [Look.move_withPending hl, hmove]
    . rw [Look.rest_withPending hl]
      exact hls
  | @read l next ls result t hmove _ ih =>
    have hl := hchunk l List.mem_cons_self
    have hls := ih fun l' hl' => hchunk l' (List.mem_cons_of_mem l hl')
    rw [Look.rest_eq_input hl] at hls
    apply read
    . rw [Look.move_withPending hl, hmove]
    . rw [Look.rest_withPending hl, Input.advance_withPending]
      exact hls

theorem exists_eq_rest (h : Looks l ls result t) : ∃ l' ∈ ls, t = l'.rest := by
  induction h with
  | @answer l result _ => exact ⟨l, List.mem_cons_self, rfl⟩
  | @stay l _ _ _ _ _ _ ih =>
    obtain ⟨l', hl', rfl⟩ := ih
    exact ⟨l', List.mem_cons_of_mem l hl', rfl⟩
  | @read l _ _ _ _ _ _ ih =>
    obtain ⟨l', hl', rfl⟩ := ih
    exact ⟨l', List.mem_cons_of_mem l hl', rfl⟩

theorem chunk_ne_nil (h : Looks l ls result t) (hchunk : ∀ l' ∈ ls, l'.input.chunk ≠ []) :
    t.chunk ≠ [] := by
  obtain ⟨l', hl', rfl⟩ := h.exists_eq_rest
  rw [Look.rest_eq_input (hchunk l' hl')]
  exact hchunk l' hl'

theorem enough_or_asks_cons {next : Look}
    (hnext : l.input.chunk ≠ [] → next.input.pending = l.input.pending)
    (h : (∀ l' ∈ ls, l'.input.chunk ≠ [])
      ∨ ∃ l' ∈ ls, l'.input.chunk = [] ∧ l'.input.pending = next.input.pending) :
    (∀ l' ∈ l :: ls, l'.input.chunk ≠ [])
      ∨ ∃ l' ∈ l :: ls, l'.input.chunk = [] ∧ l'.input.pending = l.input.pending := by
  by_cases hl : l.input.chunk = []
  . exact .inr ⟨l, List.mem_cons_self, hl, rfl⟩
  . rcases h with hall | ⟨l', hl', hchunk, hpending⟩
    . exact .inl (List.forall_mem_cons.2 ⟨hl, hall⟩)
    . exact .inr ⟨l', List.mem_cons_of_mem l hl', hchunk, hpending.trans (hnext hl)⟩

/--
Either the chunk is enough for all looks of a read, or there is a first look that finds nothing left
of it, with all events still pending.
-/
theorem enough_or_asks (h : Looks l ls result t) :
    (∀ l' ∈ ls, l'.input.chunk ≠ [])
      ∨ ∃ l' ∈ ls, l'.input.chunk = [] ∧ l'.input.pending = l.input.pending := by
  induction h with
  | @answer l _ _ =>
    refine enough_or_asks_cons (fun _ => rfl) (.inl ?_)
    simp
  | stay _ _ ih =>
    refine enough_or_asks_cons ?_ ih
    intro hl
    rw [Look.rest_eq_input hl]
  | read _ _ ih =>
    refine enough_or_asks_cons ?_ ih
    intro hl
    rw [Look.rest_eq_input hl, Input.pending_advance]

theorem eq_of_exhausted (h : Looks l ls result t) (hchunk : l.input.chunk = [])
    (hpending : l.input.pending = []) : t = l.input := by
  have hrest : ∀ {l : Look}, l.input.chunk = [] → l.input.pending = [] → l.rest = l.input := by
    intro l hchunk hpending
    rw [Look.rest, Input.look_of_exhausted hchunk hpending]
  induction h with
  | @answer l result hmove => exact hrest hchunk hpending
  | @stay l next ls result t hmove _ ih =>
    rw [hrest hchunk hpending] at ih
    exact ih hchunk hpending
  | @read l next ls result t hmove _ ih =>
    have hadvance : l.input.advance = l.input := by rw [Input.advance, hchunk]
    rw [hrest hchunk hpending, hadvance] at ih
    exact ih hchunk hpending

theorem pending_ne_of_asks (h : Looks l ls result t) {l' : Look} (hl' : l' ∈ ls)
    (hchunk : l'.input.chunk = []) {es : List Event} (hpending : l'.input.pending = es)
    (hne : es ≠ []) : t.pending ≠ es := by
  intro heq
  rw [← hpending] at heq hne
  obtain ⟨ls', hrest⟩ := h.comes_of_mem l' hl'
  have hle := hrest.length_pending_le
  have hlt : l'.rest.pending.length < l'.input.pending.length :=
    Input.length_pending_look_lt hchunk hne
  rw [heq] at hle
  omega

end Looks

end Reading

namespace Input

open Reading

theorem readInt_chunk (c : List UInt8) (position : Nat) :
    readInt ⟨c, [], position⟩
      =
    ((Layout.of c).outcome,
      ⟨(Layout.of c).rest, [],
        position + ((Layout.of c).blank ++ (Layout.of c).numeral.bytes).length⟩) := by
  have hserves := serves_chunk c position
  obtain ⟨hresult, hrest⟩ := hserves.readInt_eq
  have hpending : (readInt ⟨c, [], position⟩).2.pending = [] := by
    obtain ⟨i, hi⟩ := exists_explains_readInt ⟨c, [], position⟩
    exact (List.append_eq_nil_iff.1 hi.consumes.pending_eq.symm).2
  have hchunk : (readInt ⟨c, [], position⟩).2.chunk = (Layout.of c).rest := by
    rw [← hrest.data_eq, data, hpending, List.flatMap_nil, List.append_nil]
  have hposition : (readInt ⟨c, [], position⟩).2.position
      = position + ((Layout.of c).blank ++ (Layout.of c).numeral.bytes).length := by
    have hmoved := hserves.position_readInt
    have hlength := congrArg List.length (Layout.splits_of c).bytes_eq
    simp only [List.length_append] at hlength hmoved ⊢
    omega
  have hall : ∀ r : Except ReadFailure Int64 × Input,
      r = (r.1, ⟨r.2.chunk, r.2.pending, r.2.position⟩) := fun _ => rfl
  rw [hall (readInt ⟨c, [], position⟩), hresult, hchunk, hpending, hposition]

theorem exists_taken_of_pending_ne {s : Input} (h : s.readInt.2.pending ≠ s.pending) :
    ∃ taken, taken ≠ [] ∧ s.pending = taken ++ s.readInt.2.pending := by
  obtain ⟨i, hi⟩ := s.exists_explains_readInt
  have htaken := hi.consumes.pending_eq
  refine ⟨i.events, ?_, htaken⟩
  intro hnil
  rw [hnil, List.nil_append] at htaken
  exact h htaken.symm

section

variable {c : List UInt8} {position : Nat}

theorem exists_looks_of_rest_ne_nil (h : (Layout.of c).rest ≠ []) (es : List Event)
    (position : Nat) :
    ∃ ls, (∀ l ∈ ls, l.input.chunk ≠ [])
      ∧ Looks ⟨.blank, ⟨c, es, position⟩⟩ ls (Layout.of c).outcome
          ⟨(Layout.of c).rest, es,
            position + ((Layout.of c).blank ++ (Layout.of c).numeral.bytes).length⟩ := by
  -- With nothing pending the text is served to its final end, and what the read comes to is known.
  obtain ⟨ls, hlooks⟩ := comes_readInt ⟨c, [], position⟩
  rw [readInt_chunk] at hlooks
  rcases hlooks.enough_or_asks with hall | ⟨l, hl, hchunk, hpending⟩
  . refine ⟨ls.map (Look.withPending · es), ?_, hlooks.withPending hall es⟩
    intro l hl
    obtain ⟨l', hl', rfl⟩ := List.mem_map.1 hl
    exact hall l' hl'
  . obtain ⟨ls', hrest⟩ := hlooks.comes_of_mem l hl
    have ht := hrest.eq_of_exhausted hchunk hpending
    rw [← ht] at hchunk
    exact absurd hchunk h

theorem exists_asks_of_rest_eq_nil (h : (Layout.of c).rest = []) {es : List Event} {ls : List Look}
    {result : Except ReadFailure Int64} {t : Input}
    (hlooks : Looks ⟨.blank, ⟨c, es, position⟩⟩ ls result t) :
    ∃ l ∈ ls, l.input.chunk = [] ∧ l.input.pending = es := by
  rcases hlooks.enough_or_asks with hall | hasks
  . -- Then the read would stop inside of the chunk with nothing pending, too.
    obtain ⟨ls', hlooks'⟩ := comes_readInt ⟨c, [], position⟩
    rw [readInt_chunk] at hlooks'
    obtain ⟨-, -, ht⟩ := hlooks'.unique (hlooks.withPending hall [])
    have hchunk : t.chunk = (Layout.of c).rest := congrArg chunk ht
    exact absurd (hchunk.trans h) (hlooks.chunk_ne_nil hall)
  . exact hasks

end

/--
For any events that are pending, a read of the chunk `c` takes none of them if the white space and
the numeral that `c` begins with end before `c` does. What it reads and its result are then the same
for all events. Otherwise it takes an event, or sees the final end if there is none.
-/
theorem readInt_demand (c : List UInt8) :
    ∃ l : Layout, l.Splits c ∧ (∀ l' : Layout, l'.Splits c → l' = l)
      ∧ ∀ (es : List Event) (position : Nat),
          let s : Input := ⟨c, es, position⟩
          ∃ ls, Looks ⟨.blank, s⟩ ls s.readInt.1 s.readInt.2
            ∧ (l.rest ≠ [] →
                (∀ look ∈ ls, ∃ b, look.sight = .byte b)
                  ∧ s.readInt
                    = (l.outcome,
                        ⟨l.rest, es, position + (l.blank ++ l.numeral.bytes).length⟩))
            ∧ (l.rest = [] →
                (es ≠ [] → ∃ taken, taken ≠ [] ∧ es = taken ++ s.readInt.2.pending)
                  ∧ (es = [] → ∃ look ∈ ls, look.sight = .endOfInput)) := by
  have hsplits := Layout.splits_of c
  refine ⟨Layout.of c, hsplits, fun l' h' => h'.eq_of, ?_⟩
  intro es position s
  obtain ⟨ls, hlooks⟩ := s.comes_readInt
  refine ⟨ls, hlooks, ?_, ?_⟩
  . intro hrest
    obtain ⟨ls', hall, hlooks'⟩ := exists_looks_of_rest_ne_nil hrest es position
    obtain ⟨rfl, hresult, ht⟩ := hlooks.unique hlooks'
    constructor
    . intro look hlook
      exact Look.exists_sight_eq_byte (hall look hlook)
    . rw [hresult, ht]
  . intro hrest
    obtain ⟨look, hlook, hchunk, hpending⟩ := exists_asks_of_rest_eq_nil hrest hlooks
    constructor
    . intro hne
      apply exists_taken_of_pending_ne (s := s)
      exact hlooks.pending_ne_of_asks hlook hchunk hpending hne
    . rintro rfl
      refine ⟨look, hlook, ?_⟩
      rw [Look.sight, look_of_exhausted hchunk hpending]

end Input

end IntConsole
