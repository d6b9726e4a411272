import IntConsole.Stream.Input
import Mathlib.Data.List.TakeWhile

/-!
This module contains the view of an input in which nothing is left of the way its bytes arrive: the
list of what successive looks can see. Chunk borders, empty chunks and interruptions do not show in
it. The main statement is that reading a run depends on this view alone.
-/

namespace IntConsole

def Event.signals : Event → List Sight
  | data bs => bs.map .byte
  | endOfInput => [.endOfInput]
  | fault f => if f.kind = .interrupted then [] else [.fault f]

def Sight.byte? : Sight → Option UInt8
  | byte b => some b
  | _ => none

theorem Sight.filterMap_byte?_map (bs : List UInt8) : (bs.map byte).filterMap byte? = bs := by
  rw [List.filterMap_map]
  exact List.filterMap_some

namespace Input

def signals (s : Input) : List Sight :=
  s.chunk.map .byte ++ s.pending.flatMap Event.signals

/--
Read the longest run of bytes that satisfy `p` from what can be seen. The result consists of the
run, of what is seen behind it and of what is left.
-/
def scan (p : UInt8 → Bool) : List Sight → List UInt8 × Sight × List Sight
  | [] => ([], .endOfInput, [])
  | .byte b :: sights =>
    if p b then
      let (bytes, rest) := scan p sights
      (b :: bytes, rest)
    else
      ([], .byte b, .byte b :: sights)
  | .endOfInput :: sights => ([], .endOfInput, sights)
  | .fault f :: sights => ([], .fault f, sights)

theorem scan_append {p : UInt8 → Bool} {bs : List UInt8} (h : ∀ b ∈ bs, p b = true)
    (sights : List Sight) :
    scan p (bs.map .byte ++ sights) = (bs ++ (scan p sights).1, (scan p sights).2) := by
  induction bs with
  | nil => rfl
  | cons b bs ih =>
    have hb : p b = true := h b List.mem_cons_self
    have hbs : ∀ c ∈ bs, p c = true := fun c hc => h c (List.mem_cons_of_mem b hc)
    rw [List.map_cons, List.cons_append, scan, if_pos hb, ih hbs]
    rfl

theorem not_of_head?_dropWhile {p : UInt8 → Bool} {bs : List UInt8} {b : UInt8}
    (h : (bs.dropWhile p).head? = some b) : p b = false := by
  have := List.head?_dropWhile_not p bs
  rw [h] at this
  simpa using this

theorem readWhile.go_eq_scan (p : UInt8 → Bool) (position : Nat) (es : List Event) :
    ((go p position es).bytes, (go p position es).sight, (go p position es).rest.signals)
      =
    scan p (es.flatMap Event.signals) := by
  fun_induction go p position es with
  | case1 => rfl
  | case2 position bs es h run ih =>
    have hall : ∀ b ∈ bs, p b = true := List.dropWhile_eq_nil_iff.1 h
    rw [List.flatMap_cons, Event.signals, scan_append hall, ← ih]
  | case3 position bs es b rest h run =>
    -- The run ends inside of this chunk, and the events behind it stay untouched.
    have hhead : (bs.dropWhile p).head? = some b := by rw [h, List.head?_cons]
    have hb : p b = false := not_of_head?_dropWhile hhead
    have htake : ∀ c ∈ bs.takeWhile p, p c = true := fun c hc => List.mem_takeWhile_imp hc
    have hbs : bs = run ++ b :: rest := by
      rw [← h]
      exact List.takeWhile_append_dropWhile.symm
    rw [List.flatMap_cons, Event.signals]
    conv => rhs; rw [hbs]
    rw [List.map_append, List.append_assoc, scan_append htake, List.map_cons,
      List.cons_append, scan, if_neg (by simp [hb]), List.append_nil]
    rfl
  | case4 => rfl
  | case5 position f es h ih =>
    rw [List.flatMap_cons, Event.signals, if_pos h]
    exact ih
  | case6 position f es h =>
    rw [List.flatMap_cons, Event.signals, if_neg h]
    rfl

theorem readWhile_eq_scan (p : UInt8 → Bool) (s : Input) :
    ((s.readWhile p).bytes, (s.readWhile p).sight, (s.readWhile p).rest.signals)
      =
    scan p s.signals := by
  rw [readWhile, readWhile.go_eq_scan]
  rfl

theorem bytes_readWhile_congr {p : UInt8 → Bool} {s t : Input} (h : s.signals = t.signals) :
    (s.readWhile p).bytes = (t.readWhile p).bytes := by
  have := readWhile_eq_scan p s
  rw [h, ← readWhile_eq_scan p t] at this
  exact congrArg Prod.fst this

theorem sight_readWhile_congr {p : UInt8 → Bool} {s t : Input} (h : s.signals = t.signals) :
    (s.readWhile p).sight = (t.readWhile p).sight := by
  have := readWhile_eq_scan p s
  rw [h, ← readWhile_eq_scan p t] at this
  exact congrArg (fun r => r.2.1) this

theorem signals_readWhile_congr {p : UInt8 → Bool} {s t : Input} (h : s.signals = t.signals) :
    (s.readWhile p).rest.signals = (t.readWhile p).rest.signals := by
  have := readWhile_eq_scan p s
  rw [h, ← readWhile_eq_scan p t] at this
  exact congrArg (fun r => r.2.2) this

theorem signals_of_chunk_eq {s : Input} {b : UInt8} {rest : List UInt8} (h : s.chunk = b :: rest) :
    s.signals = .byte b :: s.advance.signals := by
  simp [signals, advance, h]

theorem signals_of_look_eq_byte {s : Input} {b : UInt8} (h : s.look.sight = .byte b) :
    s.look.rest.signals = .byte b :: s.look.rest.advance.signals := by
  obtain ⟨-, rest, hchunk⟩ := sight_readWhile_eq_byte h
  exact signals_of_chunk_eq hchunk

theorem data_eq_filterMap_signals (s : Input) :
    s.data = s.signals.filterMap Sight.byte? := by
  rw [data, signals, List.filterMap_append, Sight.filterMap_byte?_map, List.filterMap_flatMap]
  congr 2
  funext e
  cases e with
  | data bs => exact (Sight.filterMap_byte?_map bs).symm
  | endOfInput => rfl
  | fault f =>
    rw [Event.bytes, Event.signals]
    split <;> rfl

theorem data_congr {s t : Input} (h : s.signals = t.signals) : s.data = t.data := by
  rw [data_eq_filterMap_signals, data_eq_filterMap_signals, h]

end Input

end IntConsole
