import IntConsole.Proofs.Reading.Arrival
import IntConsole.Proofs.Session.Effect

/-!
This module contains the comparison of two sessions with the same steps whose inputs are equivalent.
The main statement is that nothing which can be observed of them differs, so that the way in which
bytes arrive does not matter.
-/

namespace IntConsole

def Record.shift (n : Nat) (r : Record) : Record :=
  { r with position := r.position + n }

variable {σ : Type}

namespace Console

/--
Two consoles that differ only in the way the bytes of their inputs arrive, when as many bytes have
been read from the one since position `a` as from the other since position `b`.
-/
structure Alike (a b : Nat) (c d : Console σ) : Prop where
  output_eq : c.output = d.output
  log_eq : c.log = d.log
  signals_eq : c.input.signals = d.input.signals
  position_eq : c.input.position + b = d.input.position + a

namespace Alike

variable {a b : Nat} {c d : Console σ} (h : Alike a b c d)
include h

theorem clearLog : Alike a b { c with log := [] } { d with log := [] } :=
  ⟨h.output_eq, rfl, h.signals_eq, h.position_eq⟩

theorem logAll (entries : List Log.Entry) : Alike a b (c.logAll entries) (d.logAll entries) := by
  constructor
  . exact h.output_eq
  . rw [Console.logAll, Console.logAll, h.log_eq]
  . exact h.signals_eq
  . exact h.position_eq

theorem emit [Sink σ] (pieces : List (List UInt8)) (flush : Bool) :
    Alike a b (c.emit pieces flush) (d.emit pieces flush) := by
  unfold Console.emit
  dsimp only
  rw [h.output_eq]
  apply logAll
  exact ⟨rfl, h.log_eq, h.signals_eq, h.position_eq⟩

theorem readInt [Sink σ] (cfg : Config) :
    (c.readInt cfg).1 = (d.readInt cfg).1 ∧ Alike a b (c.readInt cfg).2 (d.readInt cfg).2 := by
  have hemit := h.emit [Text.bytes cfg.prompt] true
  have hposition := Input.position_readInt_congr hemit.signals_eq
  obtain ⟨hresult, hsignals⟩ := Input.readInt_congr hemit.signals_eq
  refine ⟨hresult, hemit.output_eq, hemit.log_eq, hsignals, ?_⟩
  -- Both positions have moved on by as many bytes.
  have hstart := hemit.position_eq
  change ((c.emit _ true).input.readInt).2.position + b
    = ((d.emit _ true).input.readInt).2.position + a
  omega

theorem readIntWithPolicy [Sink σ] (cfg : Config) :
    (c.readIntWithPolicy cfg).1 = (d.readIntWithPolicy cfg).1
      ∧ Alike a b (c.readIntWithPolicy cfg).2 (d.readIntWithPolicy cfg).2 := by
  obtain ⟨hresult, hread⟩ := h.readInt cfg
  unfold Console.readIntWithPolicy
  dsimp only
  rw [hresult]
  exact ⟨rfl, hread.logAll _⟩

theorem perform [Sink σ] (cfg : Config) (e : Effect) :
    (e.perform cfg c).1 = (e.perform cfg d).1
      ∧ Alike a b (e.perform cfg c).2 (e.perform cfg d).2 := by
  cases e with
  | reject e => exact ⟨rfl, h⟩
  | write entries pieces => exact ⟨rfl, (h.logAll entries).emit pieces cfg.flush⟩
  | read entries policy =>
    obtain ⟨hresult, hread⟩ :=
      (h.logAll entries).readIntWithPolicy { cfg with onReadFailure := policy }
    simp only [Effect.perform, Step.fst_ofRead, Step.snd_ofRead, hresult]
    exact ⟨trivial, hread⟩

theorem observe [Sink σ] (cfg : Config) (step : Step) :
    (c.observe (step.act cfg)).1.shift b = (d.observe (step.act cfg)).1.shift a
      ∧ Alike a b (c.observe (step.act cfg)).2 (d.observe (step.act cfg)).2 := by
  obtain ⟨hresult, hafter⟩ := h.clearLog.perform cfg (step.effect cfg)
  rw [← Step.act_eq_perform, ← Step.act_eq_perform] at hresult hafter
  refine ⟨?_, hafter⟩
  unfold Console.observe Record.shift
  dsimp only
  rw [hresult, hafter.output_eq, hafter.log_eq, hafter.position_eq, h.output_eq]

theorem run [Sink σ] (cfg : Config) (steps : List Step) :
    (Session.run cfg c steps).1.map (Record.shift b)
        = (Session.run cfg d steps).1.map (Record.shift a)
      ∧ Alike a b (Session.run cfg c steps).2 (Session.run cfg d steps).2 := by
  induction steps generalizing c d with
  | nil => exact ⟨rfl, h⟩
  | cons step steps ih =>
    obtain ⟨hrecord, hafter⟩ := h.observe cfg step
    obtain ⟨hrecords, hlast⟩ := ih hafter
    rw [Session.run_cons, Session.run_cons, List.map_cons, List.map_cons, hrecord, hrecords]
    exact ⟨rfl, hlast⟩

end Alike

end Console

theorem Input.readInts_congr {s t : Input} (h : s.signals = t.signals) {a b : Nat}
    (hposition : s.position + b = t.position + a) (n : Nat) :
    (s.readInts n).1.map (fun r => (r.1, r.2 + b)) = (t.readInts n).1.map (fun r => (r.1, r.2 + a))
      ∧ (s.readInts n).2.signals = (t.readInts n).2.signals := by
  induction n generalizing s t with
  | zero => exact ⟨rfl, h⟩
  | succ n ih =>
    obtain ⟨hresult, hsignals⟩ := readInt_congr h
    have hnext : s.readInt.2.position + b = t.readInt.2.position + a := by
      have := position_readInt_congr h
      omega
    obtain ⟨hresults, hlast⟩ := ih hsignals hnext
    refine ⟨?_, hlast⟩
    rw [readInts, readInts, List.map_cons, List.map_cons, hresult, hnext, hresults]

namespace Session

/--
On equivalent inputs, any steps have the same results, read the same number of bytes, write the same
and log the same, and behind each of them the inputs are equivalent again. The same holds of any
number of reads without a console.
-/
theorem run_of_equivalent [Sink σ] (cfg : Config) (output : σ) (log : List Log.Entry) {s t : Input}
    (h : s.Equivalent t) (steps : List Step) (n : Nat) :
    (run cfg ⟨s, output, log⟩ steps).1.map (Record.shift t.position)
        = (run cfg ⟨t, output, log⟩ steps).1.map (Record.shift s.position)
      ∧ (run cfg ⟨s, output, log⟩ steps).2.output = (run cfg ⟨t, output, log⟩ steps).2.output
      ∧ (run cfg ⟨s, output, log⟩ steps).2.log = (run cfg ⟨t, output, log⟩ steps).2.log
      ∧ (∀ k, (run cfg ⟨s, output, log⟩ (steps.take k)).2.input.Equivalent
          (run cfg ⟨t, output, log⟩ (steps.take k)).2.input)
      ∧ (s.readInts n).1.map (fun r => (r.1, r.2 + t.position))
          = (t.readInts n).1.map (fun r => (r.1, r.2 + s.position))
      ∧ (s.readInts n).2.Equivalent (t.readInts n).2 := by
  rw [Input.equivalent_iff] at h
  have hposition := Nat.add_comm s.position t.position
  have halike : Console.Alike s.position t.position ⟨s, output, log⟩ ⟨t, output, log⟩ :=
    ⟨rfl, rfl, h, hposition⟩
  obtain ⟨hrecords, hlast⟩ := halike.run cfg steps
  obtain ⟨hresults, hsignals⟩ := Input.readInts_congr h hposition n
  refine ⟨hrecords, hlast.output_eq, hlast.log_eq, ?_, hresults, ?_⟩
  . intro k
    rw [Input.equivalent_iff]
    exact (halike.run cfg (steps.take k)).2.signals_eq
  . rw [Input.equivalent_iff]
    exact hsignals

theorem run_of_equivalent_chunks :
    let s : Input := {
      chunk := [49]
      pending := [.fault ⟨.interrupted, none⟩, .data [50, 32], .endOfInput, .data [45, 120]]
    }
    let t : Input := {
      pending := [.data [49, 50], .data [32], .endOfInput, .data [], .data [45], .data [120]]
      position := 3
    }
    let steps : List Step := [.readInt, .printInt 7, .readIntWithPolicy, .readInt]
    s.Equivalent t
      ∧ (run {} { input := s } steps).1.map (Record.shift 3)
          = (run {} { input := t } steps).1.map (Record.shift 0)
      ∧ (s.readInts 3).2.Equivalent (t.readInts 3).2 := by
  intro s t steps
  have h : s.Equivalent t := by decide
  obtain ⟨hrecords, -, -, -, -, hlast⟩ := run_of_equivalent {} ({} : Output) [] h steps 3
  exact ⟨h, hrecords, hlast⟩

end Session

end IntConsole
