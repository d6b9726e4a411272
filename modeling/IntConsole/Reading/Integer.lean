import IntConsole.Numeral.Bounded
import IntConsole.Reading.Failure
import IntConsole.Stream.Input
import IntConsole.Text.Bytes

/-!
This module contains the reader of integers from input streams. White space in front is skipped, an
optional sign and as many digits as there are come next, and the first byte behind the digits stays
in the input. So a later read goes on where this one stopped.
-/

namespace IntConsole

namespace Numeral

/--
The number of significant digits that are kept. Every integer of 64 bits has fewer.
-/
def maxSignificant : Nat :=
  20

def kept (n : Numeral) : Numeral where
  sign := n.sign
  digits := n.significant.take maxSignificant

def toInt64 (n : Numeral) : Except ReadFailure Int64 :=
  let digits := n.significant
  if digits.length ≤ maxSignificant then
    let literal := (Numeral.mk n.sign (if digits.isEmpty then [48] else digits)).bytes
    match readBounded literal with
    | .ok v => .ok v
    | .error _ => .error (.outOfRange (Text.ofAscii literal))
  else
    .error (.outOfRange (Text.ofAscii n.kept.bytes ++ "..."))

end Numeral

namespace Input

/--
Read the digits behind an optional sign. When there are none, another look tells what stands in
their place.
-/
def readDigits (s : Input) (sign : Option Sign) : Except ReadFailure Int64 × Input :=
  let run := s.readWhile Byte.isDigit
  match run.sight, run.bytes with
  | .fault f, _ => (.error (.stream f), run.rest)
  | _, [] =>
    let front := run.rest.look
    match front.sight with
    | .fault f => (.error (.stream f), front.rest)
    | .endOfInput => (.error .endOfInput, front.rest)
    | .byte b => (.error (.malformed b), front.rest)
  | _, digits => (Numeral.toInt64 ⟨sign, digits⟩, run.rest)

def readSigned (s : Input) : Except ReadFailure Int64 × Input :=
  let front := s.look
  match front.sight with
  | .fault f => (.error (.stream f), front.rest)
  | .endOfInput => (.error .endOfInput, front.rest)
  | .byte b =>
    match Sign.ofByte? b with
    | some sign => front.rest.advance.readDigits (some sign)
    | none => front.rest.readDigits none

/--
Read one integer. An end of input that is seen behind white space only ends the white space.
-/
def readInt (s : Input) : Except ReadFailure Int64 × Input :=
  let run := s.readWhile Byte.isSpace
  match run.sight with
  | .fault f => (.error (.stream f), run.rest)
  | _ => run.rest.readSigned

def readInts (s : Input) : Nat → List (Except ReadFailure Int64 × Nat) × Input
  | 0 => ([], s)
  | n + 1 =>
    let (result, next) := s.readInt
    let (results, last) := next.readInts n
    ((result, next.position) :: results, last)

end Input

end IntConsole
