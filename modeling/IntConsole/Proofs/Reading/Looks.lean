import IntConsole.Proofs.Stream.Looking
import IntConsole.Reading.Integer

/-!
This module contains the reading of an integer look by look, and what an end of input does to it
that is seen before the first digit. An input does not remember its end, so whether such an end also
ends the read depends on the look that sees it: the one for the sign and the one for what stands in
the place of digits decide at once, while the one behind white space and the one for a digit leave
the decision to the look after them. The main statement says so for every look of every read.
-/

namespace IntConsole

namespace Reading

inductive Stage where
  | blank
  | sign
  | digits (sign : Option Sign) (read : List UInt8)
  | place

def Stage.digitsRead : Stage → List UInt8
  | digits _ read => read
  | _ => []

/--
What follows from a look: reading the byte that was seen, another look at it or the result.
-/
inductive Move where
  | read (next : Stage)
  | stay (next : Stage)
  | answer (result : Except ReadFailure Int64)

def Stage.move : Stage → Sight → Move
  | _, .fault f => .answer (.error (.stream f))
  | blank, .byte b => if Byte.isSpace b then .read blank else .stay sign
  | blank, .endOfInput => .stay sign
  | sign, .byte b =>
    match Sign.ofByte? b with
    | some g => .read (digits (some g) [])
    | none => .stay (digits none [])
  | sign, .endOfInput => .answer (.error .endOfInput)
  | digits g ds, .byte b => if Byte.isDigit b then .read (digits g (ds ++ [b])) else behind g ds
  | digits g ds, .endOfInput => behind g ds
  | place, .byte b => .answer (.error (.malformed b))
  | place, .endOfInput => .answer (.error .endOfInput)
where
  behind (g : Option Sign) (ds : List UInt8) : Move :=
    if ds.isEmpty then .stay place else .answer (Numeral.toInt64 ⟨g, ds⟩)

structure Look where
  stage : Stage
  input : Input

namespace Look

def sight (l : Look) : Sight :=
  l.input.look.sight

def rest (l : Look) : Input :=
  l.input.look.rest

def move (l : Look) : Move :=
  l.stage.move l.sight

end Look

/--
A read that begins with the look `l` makes the looks of the list, comes to the result and leaves the
input `t`.
-/
inductive Looks : Look → List Look → Except ReadFailure Int64 → Input → Prop where
  | answer {l : Look} {result : Except ReadFailure Int64} (hmove : l.move = .answer result) :
      Looks l [l] result l.rest
  | stay {l : Look} {next : Stage} {ls : List Look} {result : Except ReadFailure Int64}
      {t : Input} (hmove : l.move = .stay next) (h : Looks ⟨next, l.rest⟩ ls result t) :
      Looks l (l :: ls) result t
  | read {l : Look} {next : Stage} {ls : List Look} {result : Except ReadFailure Int64}
      {t : Input} (hmove : l.move = .read next) (h : Looks ⟨next, l.rest.advance⟩ ls result t) :
      Looks l (l :: ls) result t

def Comes (l : Look) (result : Except ReadFailure Int64) (t : Input) : Prop :=
  ∃ ls, Looks l ls result t

theorem Stage.move_fault (stage : Stage) (f : Fault) :
    stage.move (.fault f) = .answer (.error (.stream f)) := by
  cases stage <;> rfl

theorem Stage.move_blank {sight : Sight} (hfault : ∀ f, sight ≠ .fault f)
    (hbyte : ∀ b, sight = .byte b → Byte.isSpace b = false) : blank.move sight = .stay sign := by
  cases sight with
  | byte b => exact if_neg (by simp [hbyte b rfl])
  | endOfInput => rfl
  | fault f => exact absurd rfl (hfault f)

theorem Stage.move_digits {sight : Sight} (hfault : ∀ f, sight ≠ .fault f)
    (hbyte : ∀ b, sight = .byte b → Byte.isDigit b = false) (g : Option Sign) (ds : List UInt8) :
    (digits g ds).move sight = move.behind g ds := by
  cases sight with
  | byte b => exact if_neg (by simp [hbyte b rfl])
  | endOfInput => rfl
  | fault f => exact absurd rfl (hfault f)

section

variable {stage next : Stage} {s t : Input} {result : Except ReadFailure Int64}

theorem comes_of_answer (h : stage.move s.look.sight = .answer result) :
    Comes ⟨stage, s⟩ result s.look.rest :=
  ⟨_, .answer h⟩

theorem Comes.of_stay (h : Comes ⟨next, s.look.rest⟩ result t)
    (hmove : stage.move s.look.sight = .stay next) : Comes ⟨stage, s⟩ result t := by
  obtain ⟨ls, hls⟩ := h
  exact ⟨_, .stay hmove hls⟩

theorem Comes.of_read (h : Comes ⟨next, s.look.rest.advance⟩ result t)
    (hmove : stage.move s.look.sight = .read next) : Comes ⟨stage, s⟩ result t := by
  obtain ⟨ls, hls⟩ := h
  exact ⟨_, .read hmove hls⟩

end

end Reading

namespace Input

open Reading

theorem exists_comes_readWhile {p : UInt8 → Bool} (stage : List UInt8 → Stage)
    (hstage : ∀ ds b, p b = true → (stage ds).move (.byte b) = .read (stage (ds ++ [b])))
    (s : Input) (ds : List UInt8) :
    ∃ u : Input, u.look.sight = (s.readWhile p).sight ∧ u.look.rest = (s.readWhile p).rest
      ∧ ∀ result t, Comes ⟨stage (ds ++ (s.readWhile p).bytes), u⟩ result t →
          Comes ⟨stage ds, s⟩ result t := by
  by_cases hrun : ∃ b, s.look.sight = .byte b ∧ p b = true
  . obtain ⟨b, hsight, hb⟩ := hrun
    have hread := readWhile_of_byte hsight hb
    obtain ⟨u, husight, hurest, hcomes⟩ :=
      exists_comes_readWhile stage hstage s.look.rest.advance (ds ++ [b])
    refine ⟨u, by rw [husight, hread], by rw [hurest, hread], ?_⟩
    intro result t h
    rw [hread] at h
    dsimp only at h
    rw [List.append_cons] at h
    apply (hcomes result t h).of_read
    rw [hsight, hstage ds b hb]
  . have hnot : ∀ b, s.look.sight = .byte b → p b = false := by
      intro b hsight
      exact Bool.not_eq_true _ ▸ fun hb => hrun ⟨b, hsight, hb⟩
    have hread := readWhile_of_not hnot
    refine ⟨s, by rw [hread], by rw [hread], ?_⟩
    rw [hread, List.append_nil]
    exact fun _ _ h => h
termination_by (s.readWhile p).bytes.length
decreasing_by
  rw [hread]
  exact Nat.lt_succ_self _

theorem comes_readDigits (s : Input) (g : Option Sign) :
    Comes ⟨.digits g [], s⟩ (s.readDigits g).1 (s.readDigits g).2 := by
  obtain ⟨u, hsight, hrest, hcomes⟩ :=
    exists_comes_readWhile (.digits g) (fun ds b hb => if_pos hb) s []
  have hbyte : ∀ b, u.look.sight = .byte b → Byte.isDigit b = false := by
    intro b hb
    exact (sight_readWhile_eq_byte (hsight.symm.trans hb)).1
  apply hcomes
  rw [List.nil_append]
  unfold readDigits
  dsimp only
  rw [← hrest, ← hsight]
  split
  . next f hf =>
    apply comes_of_answer
    rw [hf, Stage.move_fault]
  . next hnil hfault =>
    rw [hnil]
    apply Comes.of_stay ?_ (Stage.move_digits hfault hbyte g [])
    split
    all_goals
      next hfront =>
      apply comes_of_answer
      rw [hfront]
      rfl
  . next hfault hne =>
    apply comes_of_answer
    rw [Stage.move_digits hfault hbyte]
    exact if_neg (by simpa using hne)

theorem comes_readSigned (s : Input) : Comes ⟨.sign, s⟩ s.readSigned.1 s.readSigned.2 := by
  unfold readSigned
  dsimp only
  split
  . next f hsight =>
    apply comes_of_answer
    rw [hsight, Stage.move_fault]
  . next hsight =>
    apply comes_of_answer
    rw [hsight]
    rfl
  . next b hsight =>
    split
    . next g hg =>
      apply (comes_readDigits s.look.rest.advance (some g)).of_read
      rw [hsight, Stage.move, hg]
    . next hg =>
      apply (comes_readDigits s.look.rest none).of_stay
      rw [hsight, Stage.move, hg]

theorem comes_readInt (s : Input) : Comes ⟨.blank, s⟩ s.readInt.1 s.readInt.2 := by
  obtain ⟨u, hsight, hrest, hcomes⟩ :=
    exists_comes_readWhile (fun _ => .blank) (fun _ b hb => if_pos hb) s []
  have hbyte : ∀ b, u.look.sight = .byte b → Byte.isSpace b = false := by
    intro b hb
    exact (sight_readWhile_eq_byte (hsight.symm.trans hb)).1
  apply hcomes
  unfold readInt
  dsimp only
  rw [← hrest, ← hsight]
  split
  . next f hf =>
    apply comes_of_answer
    rw [hf, Stage.move_fault]
  . next hfault => exact (comes_readSigned u.look.rest).of_stay (Stage.move_blank hfault hbyte)

end Input

namespace Reading

namespace Looks

variable {l : Look} {ls : List Look} {next : Stage} {result : Except ReadFailure Int64} {t : Input}

theorem of_answer {result' : Except ReadFailure Int64} (h : Looks l ls result t)
    (hmove : l.move = .answer result') : ls = [l] ∧ result = result' ∧ t = l.rest := by
  cases h with
  | answer hmove' =>
    rw [hmove] at hmove'
    cases hmove'
    exact ⟨rfl, rfl, rfl⟩
  | stay hmove' => cases hmove.symm.trans hmove'
  | read hmove' => cases hmove.symm.trans hmove'

theorem of_stay (h : Looks l ls result t) (hmove : l.move = .stay next) :
    ∃ ls', ls = l :: ls' ∧ Looks ⟨next, l.rest⟩ ls' result t := by
  cases h with
  | answer hmove' => cases hmove.symm.trans hmove'
  | stay hmove' h =>
    cases hmove.symm.trans hmove'
    exact ⟨_, rfl, h⟩
  | read hmove' => cases hmove.symm.trans hmove'

theorem of_read (h : Looks l ls result t) (hmove : l.move = .read next) :
    ∃ ls', ls = l :: ls' ∧ Looks ⟨next, l.rest.advance⟩ ls' result t := by
  cases h with
  | answer hmove' => cases hmove.symm.trans hmove'
  | stay hmove' => cases hmove.symm.trans hmove'
  | read hmove' h =>
    cases hmove.symm.trans hmove'
    exact ⟨_, rfl, h⟩

theorem unique {ls' : List Look} {result' : Except ReadFailure Int64} {t' : Input}
    (h : Looks l ls result t) (h' : Looks l ls' result' t') :
    ls' = ls ∧ result' = result ∧ t' = t := by
  induction h generalizing ls' with
  | answer hmove => exact h'.of_answer hmove
  | stay hmove _ ih =>
    obtain ⟨ls'', rfl, hrest⟩ := h'.of_stay hmove
    obtain ⟨rfl, hresult⟩ := ih hrest
    exact ⟨rfl, hresult⟩
  | read hmove _ ih =>
    obtain ⟨ls'', rfl, hrest⟩ := h'.of_read hmove
    obtain ⟨rfl, hresult⟩ := ih hrest
    exact ⟨rfl, hresult⟩

theorem comes_of_mem (h : Looks l ls result t) : ∀ l' ∈ ls, Comes l' result t := by
  induction h with
  | answer hmove =>
    intro l' hl'
    cases List.mem_singleton.1 hl'
    exact ⟨_, .answer hmove⟩
  | stay hmove h ih =>
    intro l' hl'
    rcases List.mem_cons.1 hl' with rfl | hl'
    . exact ⟨_, .stay hmove h⟩
    . exact ih l' hl'
  | read hmove h ih =>
    intro l' hl'
    rcases List.mem_cons.1 hl' with rfl | hl'
    . exact ⟨_, .read hmove h⟩
    . exact ih l' hl'

theorem length_pending_le (h : Looks l ls result t) :
    t.pending.length ≤ l.rest.pending.length := by
  induction h with
  | answer => exact Nat.le_refl _
  | @stay l _ _ _ _ _ _ ih =>
    obtain ⟨_, hconsumes, -⟩ := l.rest.consumes_look
    exact Nat.le_trans ih hconsumes.length_pending_le
  | @read l _ _ _ _ _ _ ih =>
    obtain ⟨_, hconsumes, -⟩ := l.rest.advance.consumes_look
    apply Nat.le_trans ih
    apply Nat.le_trans hconsumes.length_pending_le
    rw [Input.pending_advance]

theorem ends_iff_of_chunk_eq_nil {u : Input} (h : Looks ⟨next, u⟩ ls result t)
    (hchunk : u.chunk = [])
    (hnext : next.move .endOfInput = .answer (.error .endOfInput)) :
    (result = .error .endOfInput ∧ t = u) ↔ u.pending = [] := by
  constructor
  . rintro ⟨-, rfl⟩
    apply Classical.byContradiction
    intro hpending
    have hlt := Input.length_pending_look_lt hchunk hpending
    exact Nat.lt_irrefl _ (Nat.lt_of_le_of_lt h.length_pending_le hlt)
  . intro hpending
    have hlook := Input.look_of_exhausted hchunk hpending
    have hmove : Look.move ⟨next, u⟩ = .answer (.error .endOfInput) := by
      rw [Look.move, Look.sight, hlook, hnext]
    obtain ⟨-, hresult, ht⟩ := h.of_answer hmove
    rw [Look.rest, hlook] at ht
    exact ⟨hresult, ht⟩

theorem ends_iff (h : Looks l ls result t) (hsight : l.sight = .endOfInput)
    (hread : l.stage.digitsRead = []) :
    (result = .error .endOfInput ∧ t = l.rest)
      ↔ l.stage = .sign ∨ l.stage = .place ∨ l.rest.pending = [] := by
  obtain ⟨stage, u⟩ := l
  have hchunk : Input.chunk (Look.rest ⟨stage, u⟩) = [] := Input.chunk_look_of_endOfInput hsight
  have hmove : Look.move ⟨stage, u⟩ = stage.move .endOfInput := by rw [Look.move, hsight]
  cases stage with
  | blank =>
    obtain ⟨_, -, hrest⟩ := h.of_stay hmove
    simpa using hrest.ends_iff_of_chunk_eq_nil hchunk rfl
  | sign => simpa using (h.of_answer hmove).2
  | digits g ds =>
    cases hread
    obtain ⟨_, -, hrest⟩ := h.of_stay hmove
    simpa using hrest.ends_iff_of_chunk_eq_nil hchunk rfl
  | place => simpa using (h.of_answer hmove).2

end Looks

theorem toInt64_ne_malformed (n : Numeral) (b : UInt8) :
    n.toInt64 ≠ .error (.malformed b) := by
  unfold Numeral.toInt64
  dsimp only
  split
  . split <;> simp
  . simp

section

variable {stage : Stage} {sight : Sight}

theorem Stage.move_eq_malformed {b : UInt8}
    (h : stage.move sight = .answer (.error (.malformed b))) :
    stage = .place ∧ sight = .byte b := by
  cases stage <;> cases sight <;> grind [move, move.behind, toInt64_ne_malformed]

theorem Stage.move_ne_read_place : stage.move sight ≠ .read .place := by
  cases stage <;> cases sight <;> grind [move, move.behind]

theorem Stage.move_eq_stay_place (h : stage.move sight = .stay .place) :
    ∃ g, stage = .digits g []
      ∧ (sight = .endOfInput ∨ ∃ b, sight = .byte b ∧ Byte.isDigit b = false) := by
  cases stage <;> cases sight <;> grind [move, move.behind, List.isEmpty_iff]

end

/--
A digit is only called malformed when it comes behind an end of input that was seen where a digit
had to be.
-/
theorem Looks.of_malformed {l : Look} {ls : List Look} {b : UInt8} {t : Input}
    (h : Looks l ls (.error (.malformed b)) t) (hb : Byte.isDigit b = true) :
    l.stage = .place ∧ l.sight = .byte b
      ∨ ∃ l' ∈ ls, (∃ g, l'.stage = .digits g []) ∧ l'.sight = .endOfInput := by
  generalize hresult : (.error (.malformed b) : Except ReadFailure Int64) = result at h
  induction h with
  | answer hmove =>
    rw [← hresult] at hmove
    exact .inl (Stage.move_eq_malformed hmove)
  | @stay l _ _ _ _ hmove _ ih =>
    rcases ih hresult with ⟨rfl, hplace⟩ | ⟨l', hl', hend⟩
    . obtain ⟨g, hstage, hsight | ⟨c, hsight, hc⟩⟩ := Stage.move_eq_stay_place hmove
      . exact .inr ⟨l, List.mem_cons_self, ⟨g, hstage⟩, hsight⟩
      . -- What is seen here is seen again, and a digit would have been read.
        rw [Look.sight, Look.rest, Input.look_look_of_byte hsight] at hplace
        cases hplace
        rw [hb] at hc
        cases hc
    . exact .inr ⟨l', List.mem_cons_of_mem _ hl', hend⟩
  | read hmove _ ih =>
    rcases ih hresult with ⟨rfl, -⟩ | ⟨l', hl', hend⟩
    . exact absurd hmove Stage.move_ne_read_place
    . exact .inr ⟨l', List.mem_cons_of_mem _ hl', hend⟩

section

variable {u : Input} {result : Except ReadFailure Int64} {t : Input}

theorem Comes.of_blank_endOfInput (h : Comes ⟨.blank, u⟩ result t)
    (hsight : u.look.sight = .endOfInput) : (result, t) = u.look.rest.readSigned := by
  obtain ⟨_, hlooks⟩ := h
  have hmove : Look.move ⟨.blank, u⟩ = .stay .sign := by
    rw [Look.move, Look.sight, hsight]
    rfl
  obtain ⟨_, -, hrest⟩ := hlooks.of_stay hmove
  obtain ⟨_, hsigned⟩ := u.look.rest.comes_readSigned
  obtain ⟨-, rfl, rfl⟩ := hsigned.unique hrest
  rfl

theorem Comes.of_digits_endOfInput {g : Option Sign} (h : Comes ⟨.digits g [], u⟩ result t)
    (hsight : u.look.sight = .endOfInput) {b : UInt8} (hb : u.look.rest.look.sight = .byte b) :
    result = .error (.malformed b) := by
  obtain ⟨_, hlooks⟩ := h
  have hmove : Look.move ⟨.digits g [], u⟩ = .stay .place := by
    rw [Look.move, Look.sight, hsight]
    rfl
  obtain ⟨_, -, hrest⟩ := hlooks.of_stay hmove
  have hmove' : Look.move ⟨.place, u.look.rest⟩ = .answer (.error (.malformed b)) := by
    rw [Look.move, Look.sight, hb]
    rfl
  exact (hrest.of_answer hmove').2.1

end

end Reading

namespace Input

open Reading

/--
Every read is made of looks, which are the same each time. When one of them sees an end of input
before a digit was read, the read ends there as one without an integer exactly if the look was one
for the sign or for what stands in the place of digits, or if nothing comes behind that end.
Otherwise the bytes that come behind it are read as an integer all the same if the end showed behind
white space, and called malformed if it showed where a digit had to be, even if they are digits.
-/
theorem readInt_of_endOfInput (s : Input) :
    ∃ ls, (∀ ls' result t, Looks ⟨.blank, s⟩ ls' result t ↔ ls' = ls ∧ (result, t) = s.readInt)
      ∧ (∀ l ∈ ls, l.sight = .endOfInput → l.stage.digitsRead = [] →
          (s.readInt = (.error .endOfInput, l.rest)
              ↔ l.stage = .sign ∨ l.stage = .place ∨ l.rest.pending = [])
            ∧ (l.stage = .blank → s.readInt = l.rest.readSigned)
            ∧ ∀ g b, l.stage = .digits g [] → l.rest.look.sight = .byte b →
                s.readInt.1 = .error (.malformed b))
      ∧ ∀ b, s.readInt.1 = .error (.malformed b) → Byte.isDigit b = true →
          ∃ l ∈ ls, (∃ g, l.stage = .digits g []) ∧ l.sight = .endOfInput := by
  obtain ⟨ls, hlooks⟩ := s.comes_readInt
  refine ⟨ls, ?_, ?_, ?_⟩
  . intro ls' result t
    constructor
    . intro h
      obtain ⟨rfl, rfl, rfl⟩ := hlooks.unique h
      exact ⟨rfl, rfl⟩
    . rintro ⟨rfl, h⟩
      rw [← h] at hlooks
      exact hlooks
  . intro l hl hsight hread
    obtain ⟨_, hrest⟩ := hlooks.comes_of_mem l hl
    obtain ⟨stage, u⟩ := l
    refine ⟨?_, ?_, ?_⟩
    . rw [Prod.ext_iff]
      exact hrest.ends_iff hsight hread
    . rintro rfl
      exact Comes.of_blank_endOfInput ⟨_, hrest⟩ hsight
    . rintro g b rfl hb
      exact Comes.of_digits_endOfInput ⟨_, hrest⟩ hsight hb
  . intro b hmalformed hb
    rw [hmalformed] at hlooks
    rcases hlooks.of_malformed hb with ⟨hstage, -⟩ | h
    . cases hstage
    . exact h

/--
A digit behind an end of input is read as an integer when the end comes first, and called malformed
when it comes behind a sign.
-/
theorem readInt_past_endOfInput :
    (∃ ls, Looks ⟨.blank, ofEvents [.endOfInput, .data [53]]⟩ ls (.ok 5) ⟨[], [], 1⟩
        ∧ ∃ l ∈ ls, l.sight = .endOfInput ∧ l.stage.digitsRead = [])
      ∧ ∃ ls, Looks ⟨.blank, ofEvents [.data [45], .endOfInput, .data [53]]⟩ ls
            (.error (.malformed 53)) ⟨[53], [], 1⟩
          ∧ ∃ l ∈ ls, l.sight = .endOfInput ∧ l.stage.digitsRead = [] := by
  constructor
  . refine ⟨_, .stay rfl (.stay rfl (.read rfl (.answer rfl))), ?_⟩
    exact ⟨_, List.mem_cons_self, rfl, rfl⟩
  . refine ⟨_, .stay rfl (.read rfl (.stay rfl (.answer rfl))), ?_⟩
    -- The look in the place of digits is the third one.
    exact ⟨_, List.mem_cons_of_mem _ (List.mem_cons_of_mem _ List.mem_cons_self), rfl, rfl⟩

end Input

end IntConsole
