import IntConsole.Proofs.Reading.Layout
import IntConsole.Proofs.Session.Effect
import IntConsole.Proofs.Stream.Writing

/-!
This module contains the way back from what a session prints to the integers that it printed. The
main statement is that reading them gives the same integers in the same order, as long as each one
can be told from the one in front of it.
-/

namespace IntConsole

variable {σ : Type} [Sink σ]

namespace Console

variable {c : Console σ} (h : Sink.AcceptsAll c.output)
include h

theorem perform_of_acceptsAll (cfg : Config) (e : Effect) :
    Sink.accepted (e.perform cfg c).2.output = Sink.accepted c.output ++ e.text cfg
      ∧ Sink.AcceptsAll (e.perform cfg c).2.output := by
  cases e with
  | reject e => exact ⟨(List.append_nil _).symm, h⟩
  | write entries pieces => exact ⟨h.accepted_emit pieces cfg.flush, h.emit pieces cfg.flush⟩
  | read entries policy =>
    rw [Effect.perform, Step.snd_ofRead]
    exact ⟨h.accepted_emit [Text.bytes cfg.prompt] true, h.emit [Text.bytes cfg.prompt] true⟩

theorem observe_of_acceptsAll (cfg : Config) (step : Step) :
    (c.observe (step.act cfg)).1.out = (step.effect cfg).text cfg
      ∧ Sink.AcceptsAll (c.observe (step.act cfg)).2.output := by
  obtain ⟨haccepted, hafter⟩ :=
    perform_of_acceptsAll (c := { c with log := [] }) h cfg (step.effect cfg)
  rw [← Step.act_eq_perform] at haccepted hafter
  refine ⟨?_, hafter⟩
  unfold observe
  dsimp only
  rw [haccepted]
  exact List.drop_left

end Console

theorem Session.out_run_of_acceptsAll (cfg : Config) {c : Console σ}
    (h : Sink.AcceptsAll c.output) (steps : List Step) :
    (run cfg c steps).1.flatMap Record.out
      =
    steps.flatMap fun step => (step.effect cfg).text cfg := by
  induction steps generalizing c with
  | nil => rfl
  | cons step steps ih =>
    obtain ⟨hout, hafter⟩ := Console.observe_of_acceptsAll h cfg step
    rw [run_cons, List.flatMap_cons, List.flatMap_cons, hout, ih hafter]

theorem Session.results_run_readInt (cfg : Config) (c : Console σ) (n : Nat) :
    (run cfg c (List.replicate n .readInt)).1.map Record.result
      =
    ((c.input.readInts n).1.map Prod.fst).map fun r => (r.map some).mapError .read := by
  induction n generalizing c with
  | zero => rfl
  | succ n ih =>
    have hinput : (c.observe fun c => Step.act cfg c .readInt).2.input = c.input.readInt.2 := by
      change (Step.ofRead _).2.input = _
      rw [Step.snd_ofRead]
      rfl
    rw [List.replicate_succ, run_cons, List.map_cons, ih, hinput, Input.readInts, List.map_cons,
      List.map_cons]
    congr 1
    exact Step.fst_ofRead _

def Step.printed? : Step → Option Int64
  | printInt v => some v
  | _ => none

def Step.PrintLines (steps : List Step) : Prop :=
  ∀ step ∈ steps, step = .println ∨ ∃ v, step = .printInt v

/--
Where an integer is printed right behind another one, its minus sign tells them apart.
-/
def Step.Apart (steps : List Step) : Prop :=
  ∀ (k : Nat) (u v : Int64),
    steps[k]? = some (.printInt u) → steps[k + 1]? = some (.printInt v) → v < 0

theorem Step.Apart.tail {step : Step} {steps : List Step} (h : Apart (step :: steps)) :
    Apart steps :=
  fun k u v hu hv => h (k + 1) u v hu hv

theorem Decimal.head?_bytes_of_neg {v : Int64} (hv : v < 0) (rest : List UInt8) :
    (bytes v.toInt ++ rest).head? = some 45 := by
  have hneg : v.toInt < 0 := by
    rw [Int64.lt_iff_toInt_lt] at hv
    exact hv
  simp [bytes, numeral, Numeral.bytes, hneg, Sign.byte]

theorem Step.text_println (cfg : Config) : (effect cfg .println).text cfg = [10] := by
  change Text.bytes "\n" = [10]
  decide

theorem Step.text_printInt (cfg : Config) (v : Int64) :
    (effect cfg (.printInt v)).text cfg = Decimal.bytes v.toInt :=
  Decimal.flatten_pieces v.toInt

theorem Step.not_isDigit_of_head? (cfg : Config) {v : Int64} {steps : List Step}
    (hlines : PrintLines steps) (hapart : Apart (.printInt v :: steps)) {b : UInt8}
    (hb : (steps.flatMap fun step => (step.effect cfg).text cfg).head? = some b) :
    Byte.isDigit b = false := by
  cases steps with
  | nil => cases hb
  | cons step steps =>
    rw [List.flatMap_cons] at hb
    rcases hlines step List.mem_cons_self with rfl | ⟨u, rfl⟩
    . rw [text_println] at hb
      cases hb
      rfl
    . rw [text_printInt, Decimal.head?_bytes_of_neg (hapart 0 v u rfl rfl)] at hb
      cases hb
      rfl

theorem Decimal.outcome_numeral (blank rest : List UInt8) (v : Int64) :
    Layout.outcome ⟨blank, numeral v.toInt, rest⟩ = .ok v := by
  have hdigits : ∀ b ∈ (numeral v.toInt).digits, Byte.isDigit b = true :=
    fun b hb => isDigit_of_mem_digits hb
  rw [Layout.outcome_of_ne_nil (digits_ne_nil _), Numeral.toInt64_eq_ok hdigits, value_numeral]
  exact ⟨Numeral.fits_toInt v, rfl⟩

theorem Input.readInts_of_serves_text (cfg : Config) {steps : List Step}
    (hlines : Step.PrintLines steps) (hapart : Step.Apart steps) {blank : List UInt8}
    (hblank : ∀ b ∈ blank, Byte.isSpace b = true) {s : Input}
    (h : s.Serves (blank ++ steps.flatMap fun step => (step.effect cfg).text cfg)) :
    (s.readInts ((steps.filterMap Step.printed?).length + 1)).1.map Prod.fst
      =
    (steps.filterMap Step.printed?).map .ok ++ [.error .endOfInput] := by
  induction steps generalizing blank s with
  | nil =>
    rw [List.flatMap_nil, List.append_nil] at h
    have hlayout := (Layout.splits_blank hblank).eq_of
    have hresult := h.readInt_eq.1
    rw [← hlayout] at hresult
    exact congrArg (fun r => [r]) hresult
  | cons step steps ih =>
    have hrest : Step.PrintLines steps :=
      fun step hstep => hlines step (List.mem_cons_of_mem _ hstep)
    rw [List.flatMap_cons] at h
    rcases hlines step List.mem_cons_self with rfl | ⟨v, rfl⟩
    . -- The end of the line becomes part of the white space in front of the next integer.
      rw [Step.text_println, ← List.append_assoc] at h
      apply ih hrest hapart.tail ?_ h
      intro b hb
      rcases List.mem_append.1 hb with hb | hb
      . exact hblank b hb
      . rw [List.mem_singleton.1 hb]
        rfl
    . -- The integer is read at once and leaves exactly what was printed behind it.
      have hstop := fun b => Step.not_isDigit_of_head? cfg hrest hapart (b := b)
      have hlayout := (Layout.splits_numeral hblank (Decimal.digits_ne_nil v.toInt.natAbs)
        (n := Decimal.numeral v.toInt) (fun b hb => Decimal.isDigit_of_mem_digits hb) hstop).eq_of
      obtain ⟨hresult, hserves⟩ := h.readInt_eq
      rw [Step.text_printInt, Decimal.bytes, ← hlayout] at hresult hserves
      rw [Decimal.outcome_numeral] at hresult
      have hempty : ∀ b ∈ ([] : List UInt8), Byte.isSpace b = true := by simp
      have hreads := ih hrest hapart.tail hempty hserves
      have hvalues :
          (Step.printInt v :: steps).filterMap Step.printed? = v :: steps.filterMap Step.printed? :=
        rfl
      rw [hvalues, List.length_cons, Input.readInts, List.map_cons, hresult, hreads]
      rfl

namespace Session

/--
Reading what steps have printed gives the printed integers, each of them once and in order, and then
the end of the input.
-/
theorem results_of_printed {τ : Type} [Sink τ] (cfg cfg' : Config) {c : Console σ} {c' : Console τ}
    {steps : List Step} (hlines : Step.PrintLines steps) (hapart : Step.Apart steps)
    (hout : Sink.AcceptsAll c.output)
    (hserves : c'.input.Serves ((run cfg c steps).1.flatMap Record.out)) :
    (run cfg' c' (List.replicate ((steps.filterMap Step.printed?).length + 1) .readInt)).1.map
        Record.result
      =
    (steps.filterMap Step.printed?).map (fun v => .ok (some v))
      ++ [.error (.read .endOfInput)] := by
  rw [out_run_of_acceptsAll cfg hout] at hserves
  have hempty : ∀ b ∈ ([] : List UInt8), Byte.isSpace b = true := by simp
  have hreads := Input.readInts_of_serves_text cfg hlines hapart hempty hserves
  rw [results_run_readInt, hreads, List.map_append, List.map_map]
  rfl

/--
Two numbers that only a minus sign tells apart, and the least number, in chunks that are cut inside
of them.
-/
theorem results_of_printed_chunks :
    let steps : List Step :=
      [.println, .printInt 5, .printInt (-3), .println, .printInt Int64.minValue]
    let c' : Console := {
      input := {
        chunk := [10, 53, 45]
        pending := [
          .data [51, 10, 45, 57, 50, 50, 51, 51, 55, 50, 48, 51, 54],
          .fault ⟨.interrupted, none⟩,
          .data [],
          .data [56, 53, 52, 55, 55, 53, 56, 48, 56]
        ]
      }
    }
    c'.input.Serves ((run {} {} steps).1.flatMap Record.out)
      ∧ (run {} c' (List.replicate 4 .readInt)).1.map Record.result = [
          .ok (some 5), .ok (some (-3)), .ok (some Int64.minValue), .error (.read .endOfInput)
        ] := by
  intro steps c'
  have hlines : Step.PrintLines steps := by
    intro step hstep
    simp only [steps, List.mem_cons, List.not_mem_nil, or_false] at hstep
    rcases hstep with rfl | rfl | rfl | rfl | rfl <;> simp
  have hapart : Step.Apart steps := by
    intro k u v hu hv
    rcases k with _ | _ | _ | _ | k
    . cases hu
    . cases hv
      decide
    . cases hv
    . cases hu
    . cases hv
  have hout : Sink.AcceptsAll ({} : Console).output := Output.acceptsAll rfl
  have hserves : c'.input.Serves ((run {} {} steps).1.flatMap Record.out) := by
    rw [out_run_of_acceptsAll {} hout, Input.serves_iff]
    decide +kernel
  have hvalues : steps.filterMap Step.printed? = [5, -3, Int64.minValue] := rfl
  have hresults := results_of_printed {} {} hlines hapart hout hserves
  rw [hvalues] at hresults
  exact ⟨hserves, hresults⟩

end Session

end IntConsole
