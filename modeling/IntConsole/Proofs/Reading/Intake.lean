import IntConsole.Proofs.Numeral.Bounded
import IntConsole.Proofs.Stream.Consumption

/-!
This module contains the account of what reading an integer takes from an input on which ends and
faults can show at any time. The main statement is that each of any number of reads takes white
space and a numeral, both possibly cut short, that its result tells the truth about them, and that
together the reads lose no byte.
-/

namespace IntConsole

structure Intake where
  blank : List UInt8
  numeral : Numeral
  events : List Event

def Intake.bytes (i : Intake) : List UInt8 :=
  i.blank ++ i.numeral.bytes

/--
What the result of a read tells about the numeral and the events that were taken, and about the
input that is left. A fault is reported by the result or not at all.
-/
def Intake.Tells (n : Numeral) (es : List Event) (t : Input) : Except ReadFailure Int64 → Prop
  | .ok v => n.digits ≠ [] ∧ v.toInt = n.value ∧ Event.reported es = []
  | .error (.outOfRange _) => n.digits ≠ [] ∧ ¬Numeral.Fits n.value ∧ Event.reported es = []
  | .error .endOfInput => n.digits = [] ∧ Event.reported es = []
  | .error (.malformed b) => n.digits = [] ∧ t.chunk.head? = some b ∧ Event.reported es = []
  | .error (.stream f) => es.getLast? = some (.fault f) ∧ Event.reported es = [f]

structure Intake.Explains (i : Intake) (s : Input) (result : Except ReadFailure Int64) (t : Input) :
    Prop where
  consumes : s.Consumes i.bytes i.events t
  isSpace_of_mem_blank : ∀ b ∈ i.blank, Byte.isSpace b = true
  isDigit_of_mem_digits : ∀ b ∈ i.numeral.digits, Byte.isDigit b = true
  tells : Intake.Tells i.numeral i.events t result

/--
If the result names a literal in place of an integer, it is the one of the numeral.
-/
def Intake.Names (n : Numeral) (result : Except ReadFailure Int64) : Prop :=
  ∀ literal, result = .error (.outOfRange literal) → literal = n.literal

theorem Intake.Tells.prepend {n : Numeral} {es : List Event} {t : Input}
    {result : Except ReadFailure Int64} (h : Tells n es t result) {fs : List Event}
    (hfs : Event.reported fs = []) : Tells n (fs ++ es) t result := by
  cases result with
  | ok v => simpa [Tells, hfs] using h
  | error e =>
    cases e with
    | stream f =>
      obtain ⟨hlast, hreported⟩ := h
      constructor
      . rw [List.getLast?_append, hlast]
        rfl
      . rw [Event.reported_append, hfs, hreported]
        rfl
    | endOfInput => simpa [Tells, hfs] using h
    | malformed b => simpa [Tells, hfs] using h
    | outOfRange literal => simpa [Tells, hfs] using h

theorem Intake.tells_toInt64 {n : Numeral} {es : List Event} {t : Input} (hne : n.digits ≠ [])
    (hdigits : ∀ b ∈ n.digits, Byte.isDigit b = true) (hes : Event.reported es = []) :
    Tells n es t n.toInt64 := by
  cases hvalue : n.toInt64 with
  | ok v =>
    rw [Numeral.toInt64_eq_ok hdigits] at hvalue
    exact ⟨hne, hvalue.2, hes⟩
  | error e =>
    rw [Numeral.toInt64_eq_error hdigits] at hvalue
    obtain ⟨hfits, rfl⟩ := hvalue
    exact ⟨hne, hfits, hes⟩

theorem Intake.names_toInt64 {n : Numeral} (hdigits : ∀ b ∈ n.digits, Byte.isDigit b = true) :
    Names n n.toInt64 := by
  intro literal h
  rw [Numeral.toInt64_eq_error hdigits] at h
  simpa using h.2

namespace Input

theorem explain_readDigits (s : Input) (sign : Option Sign) :
    ∃ digits es, s.Consumes digits es (s.readDigits sign).2
      ∧ (∀ b ∈ digits, Byte.isDigit b = true)
      ∧ Intake.Tells ⟨sign, digits⟩ es (s.readDigits sign).2 (s.readDigits sign).1
      ∧ Intake.Names ⟨sign, digits⟩ (s.readDigits sign).1 := by
  obtain ⟨es, hconsumes, hreported, hlast⟩ := s.consumes_readWhile Byte.isDigit
  obtain ⟨fs, hconsumes', hreported', hlast'⟩ := (s.readWhile Byte.isDigit).rest.consumes_look
  have hdigits : ∀ b ∈ (s.readWhile Byte.isDigit).bytes, Byte.isDigit b = true :=
    fun b hb => of_mem_bytes_readWhile hb
  unfold readDigits
  dsimp only
  split
  . next f hsight =>
    rw [hsight] at hreported
    exact ⟨_, es, hconsumes, hdigits, ⟨hlast f hsight, hreported⟩, by simp [Intake.Names]⟩
  . next hnil hfault =>
    -- The second look takes events of its own, which come behind those of the run.
    have hnone : Event.reported es = [] := Event.reported_eq_nil hreported hfault
    have htrans := hconsumes.trans hconsumes'
    rw [hnil, List.append_nil] at htrans
    split
    . next f hsight =>
      rw [hsight] at hreported'
      refine ⟨[], es ++ fs, htrans, by simp, Intake.Tells.prepend ?_ hnone, by simp [Intake.Names]⟩
      exact ⟨hlast' f hsight, hreported'⟩
    . next hsight =>
      rw [hsight] at hreported'
      refine ⟨[], es ++ fs, htrans, by simp, Intake.Tells.prepend ?_ hnone, by simp [Intake.Names]⟩
      exact ⟨rfl, hreported'⟩
    . next b hsight =>
      rw [hsight] at hreported'
      obtain ⟨-, rest, hchunk⟩ := sight_readWhile_eq_byte hsight
      refine ⟨[], es ++ fs, htrans, by simp, Intake.Tells.prepend ?_ hnone, by simp [Intake.Names]⟩
      exact ⟨rfl, by rw [look, hchunk]; rfl, hreported'⟩
  . next hfault hne =>
    have hnone : Event.reported es = [] := Event.reported_eq_nil hreported hfault
    refine ⟨_, es, hconsumes, hdigits, ?_, ?_⟩
    . exact Intake.tells_toInt64 hne hdigits hnone
    . exact Intake.names_toInt64 hdigits

theorem explain_readSigned (s : Input) :
    ∃ (n : Numeral) (es : List Event), s.Consumes n.bytes es s.readSigned.2
      ∧ (∀ b ∈ n.digits, Byte.isDigit b = true)
      ∧ Intake.Tells n es s.readSigned.2 s.readSigned.1
      ∧ Intake.Names n s.readSigned.1 := by
  obtain ⟨es, hconsumes, hreported, hlast⟩ := s.consumes_look
  unfold readSigned
  dsimp only
  split
  . next f hsight =>
    rw [hsight] at hreported
    refine ⟨⟨none, []⟩, es, hconsumes, by simp, ?_, by simp [Intake.Names]⟩
    exact ⟨hlast f hsight, hreported⟩
  . next hsight =>
    rw [hsight] at hreported
    refine ⟨⟨none, []⟩, es, hconsumes, by simp, ?_, by simp [Intake.Names]⟩
    exact ⟨rfl, hreported⟩
  . next b hsight =>
    rw [hsight] at hreported
    obtain ⟨-, rest, hchunk⟩ := sight_readWhile_eq_byte hsight
    split
    . next g hg =>
      rw [Sign.ofByte?_eq_some] at hg
      subst hg
      obtain ⟨digits, fs, hconsumes', hdigits, htells, hnames⟩ :=
        s.look.rest.advance.explain_readDigits (some g)
      have htrans := (hconsumes.trans (Consumes.advance hchunk)).trans hconsumes'
      rw [List.append_nil] at htrans
      exact ⟨⟨some g, digits⟩, es ++ fs, htrans, hdigits, htells.prepend hreported, hnames⟩
    . next hg =>
      obtain ⟨digits, fs, hconsumes', hdigits, htells, hnames⟩ :=
        s.look.rest.explain_readDigits none
      have htrans := hconsumes.trans hconsumes'
      exact ⟨⟨none, digits⟩, es ++ fs, htrans, hdigits, htells.prepend hreported, hnames⟩

theorem exists_explains_names_readInt (s : Input) :
    ∃ i : Intake, i.Explains s s.readInt.1 s.readInt.2 ∧ Intake.Names i.numeral s.readInt.1 := by
  obtain ⟨es, hconsumes, hreported, hlast⟩ := s.consumes_readWhile Byte.isSpace
  have hblank : ∀ b ∈ (s.readWhile Byte.isSpace).bytes, Byte.isSpace b = true :=
    fun b hb => of_mem_bytes_readWhile hb
  unfold readInt
  dsimp only
  split
  . next f hsight =>
    rw [hsight] at hreported
    refine ⟨⟨(s.readWhile Byte.isSpace).bytes, ⟨none, []⟩, es⟩, ⟨?_, hblank, by simp, ?_⟩,
      by simp [Intake.Names]⟩
    . simpa [Intake.bytes, Numeral.bytes] using hconsumes
    . exact ⟨hlast f hsight, hreported⟩
  . next hfault =>
    have hnone : Event.reported es = [] := Event.reported_eq_nil hreported hfault
    -- What is taken before the numeral holds no fault, so the result reports on the rest alone.
    obtain ⟨n, fs, hconsumes', hdigits, htells, hnames⟩ :=
      (s.readWhile Byte.isSpace).rest.explain_readSigned
    refine ⟨⟨(s.readWhile Byte.isSpace).bytes, n, es ++ fs⟩, ?_, hnames⟩
    exact ⟨hconsumes.trans hconsumes', hblank, hdigits, htells.prepend hnone⟩

theorem exists_explains_readInt (s : Input) :
    ∃ i : Intake, i.Explains s s.readInt.1 s.readInt.2 := by
  obtain ⟨i, hi, -⟩ := s.exists_explains_names_readInt
  exact ⟨i, hi⟩

/--
Any number of reads, each of which begins where the one before it stopped: the bytes that they take
and those that are left are all bytes of the input in their order, and every single read takes white
space and a numeral of which its result tells the truth.
-/
theorem explain_readInts (s : Input) (n : Nat) :
    ∃ intakes : List Intake, intakes.length = n
      ∧ s.data = intakes.flatMap Intake.bytes ++ (s.readInts n).2.data
      ∧ ∀ (k : Nat) (i : Intake), intakes[k]? = some i →
          i.Explains (s.readInts k).2 (s.readInts k).2.readInt.1 (s.readInts (k + 1)).2
            ∧ (s.readInts k).2.data = i.bytes ++ (s.readInts (k + 1)).2.data
            ∧ (s.readInts n).1[k]?
                = some ((s.readInts k).2.readInt.1, (s.readInts (k + 1)).2.position) := by
  induction n generalizing s with
  | zero => exact ⟨[], rfl, rfl, by simp⟩
  | succ n ih =>
    obtain ⟨i, hi⟩ := s.exists_explains_readInt
    obtain ⟨intakes, hlength, hdata, hintakes⟩ := ih s.readInt.2
    refine ⟨i :: intakes, by rw [List.length_cons, hlength], ?_, ?_⟩
    . rw [List.flatMap_cons, List.append_assoc, hi.consumes.data_eq, hdata]
      rfl
    . intro k j hj
      cases k with
      | zero =>
        cases hj
        exact ⟨hi, hi.consumes.data_eq, rfl⟩
      | succ k => exact hintakes k j hj

end Input

end IntConsole
