import IntConsole.Stream.Fault

/-!
This module contains input streams. Bytes arrive in chunks, between which the stream may report its
end or a fault. Neither is remembered: whoever looks again sees what comes next.

`Input.data` is the view of an input that the laws of this module are about: reading takes bytes
from the front of it and changes nothing else.
-/

namespace IntConsole

inductive Event where
  | data (bytes : List UInt8)
  | endOfInput
  | fault (f : Fault)
  deriving DecidableEq

def Event.bytes : Event → List UInt8
  | data bs => bs
  | endOfInput => []
  | fault _ => []

inductive Sight where
  | byte (b : UInt8)
  | endOfInput
  | fault (f : Fault)
  deriving DecidableEq

/--
An input stream: the unread part of the current chunk, what comes after it, and the number of bytes
that have been read. When there are no events left, the input is at its end for good.
-/
structure Input where
  chunk : List UInt8 := []
  pending : List Event := []
  position : Nat := 0
  deriving DecidableEq

structure Run where
  bytes : List UInt8
  sight : Sight
  rest : Input

namespace Input

def ofBytes (bs : List UInt8) : Input where
  chunk := bs

def ofEvents (es : List Event) : Input where
  pending := es

def data (s : Input) : List UInt8 :=
  s.chunk ++ s.pending.flatMap Event.bytes

/--
Read the longest run of bytes that satisfy `p`. The run ends at a byte that does not satisfy `p`,
which stays in the input, at an end of input or at a fault, which are taken from the input.
Interrupted attempts are repeated.
-/
def readWhile (p : UInt8 → Bool) (s : Input) : Run :=
  go s.position (.data s.chunk :: s.pending)
where
  go (position : Nat) : List Event → Run
    | [] => ⟨[], .endOfInput, ⟨[], [], position⟩⟩
    | .data bs :: es =>
      match bs.dropWhile p with
      | [] =>
        let run := go (position + bs.length) es
        { run with bytes := bs ++ run.bytes }
      | b :: rest =>
        let run := bs.takeWhile p
        ⟨run, .byte b, ⟨b :: rest, es, position + run.length⟩⟩
    | .endOfInput :: es => ⟨[], .endOfInput, ⟨[], es, position⟩⟩
    | .fault f :: es =>
      if f.kind = .interrupted then go position es else ⟨[], .fault f, ⟨[], es, position⟩⟩

def look (s : Input) : Run :=
  s.readWhile fun _ => false

def advance (s : Input) : Input :=
  match s.chunk with
  | [] => s
  | _ :: rest => { s with chunk := rest, position := s.position + 1 }

def supply (s : Input) (es : List Event) : Input :=
  { s with pending := s.pending ++ es }

/--
Put a mark behind everything that has arrived. Whatever asks for more takes it.
-/
def mark (s : Input) : Input :=
  s.supply [.fault .notReady]

def unmark (s : Input) : Input :=
  { s with pending := s.pending.dropLast }

def readAll (s : Input) : Option (List UInt8) :=
  let run := s.readWhile fun _ => true
  match run.sight with
  | .fault _ => none
  | _ => some run.bytes

theorem unmark_mark (s : Input) : s.mark.unmark = s := by
  rw [mark, unmark, supply, List.dropLast_concat]

theorem readWhile.of_mem_bytes (p : UInt8 → Bool) (position : Nat) (es : List Event) :
    ∀ b ∈ (go p position es).bytes, p b = true := by
  fun_induction go p position es with
  | case1 => simp
  | case2 position bs es h run ih =>
    intro b hb
    have htake : bs.takeWhile p = bs := by
      simpa [h] using List.takeWhile_append_dropWhile (p := p) (l := bs)
    rcases List.mem_append.1 hb with hb | hb
    . exact List.all_eq_true.1 List.all_takeWhile b (htake ▸ hb)
    . exact ih b hb
  | case3 position bs es b rest h run => exact List.all_eq_true.1 List.all_takeWhile
  | case4 => simp
  | case5 position f es h ih => exact ih
  | case6 => simp

theorem of_mem_bytes_readWhile {p : UInt8 → Bool} {s : Input} {b : UInt8}
    (h : b ∈ (s.readWhile p).bytes) : p b = true :=
  readWhile.of_mem_bytes p _ _ b h

theorem readWhile.sight_byte (p : UInt8 → Bool) (position : Nat) (es : List Event) (b : UInt8)
    (h : (go p position es).sight = .byte b) :
    p b = false ∧ ∃ rest, (go p position es).rest.chunk = b :: rest := by
  fun_induction go p position es with
  | case1 => simp at h
  | case2 position bs es _ run ih => exact ih h
  | case3 position bs es c rest hd run =>
    obtain rfl : c = b := by simpa using h
    have := List.head?_dropWhile_not p bs
    exact ⟨by simpa [hd] using this, rest, rfl⟩
  | case4 => simp at h
  | case5 position f es _ ih => exact ih h
  | case6 => simp at h

theorem readWhile.position_go (p : UInt8 → Bool) (position : Nat) (es : List Event) :
    (go p position es).rest.position = position + (go p position es).bytes.length := by
  fun_induction go p position es with
  | case1 => rfl
  | case2 position bs es _ run ih => simp [run, ih, Nat.add_assoc]
  | case3 => rfl
  | case4 => rfl
  | case5 position f es _ ih => exact ih
  | case6 => rfl

theorem position_readWhile (p : UInt8 → Bool) (s : Input) :
    (s.readWhile p).rest.position = s.position + (s.readWhile p).bytes.length :=
  readWhile.position_go p _ _

theorem sight_readWhile_eq_byte {p : UInt8 → Bool} {s : Input} {b : UInt8}
    (h : (s.readWhile p).sight = .byte b) :
    p b = false ∧ ∃ rest, (s.readWhile p).rest.chunk = b :: rest :=
  readWhile.sight_byte p _ _ b h

end Input

end IntConsole
