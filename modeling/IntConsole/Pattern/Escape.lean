import IntConsole.Pattern.Basic
import IntConsole.Text.Blank

/-!
This module contains what patterns share inside and outside of sets: the space that does not count,
and the escapes that start with a backslash.
-/

namespace IntConsole

namespace Pattern

def skipSpace (spaced : Bool) (cs : List Char) : List Char :=
  if spaced then go false cs else cs
where
  go (comment : Bool) : List Char → List Char
    | [] => []
    | c :: cs =>
      if comment then go (c != '\n') cs
      else if Text.isBlank c then go false cs
      else if c = '#' then go true cs
      else c :: cs

def hexValue? (c : Char) : Option Nat :=
  if '0' ≤ c ∧ c ≤ '9' then some (c.toNat - '0'.toNat)
  else if 'a' ≤ c ∧ c ≤ 'f' then some (c.toNat - 'a'.toNat + 10)
  else if 'A' ≤ c ∧ c ≤ 'F' then some (c.toNat - 'A'.toNat + 10)
  else none

def readCode? (spaced : Bool) : Nat → Nat → List Char → Option (Char × List Char)
  | 0, code, cs =>
    if code.isValidChar then some (Char.ofNat code, skipSpace spaced cs) else none
  | left + 1, code, cs =>
    match skipSpace spaced cs with
    | [] => none
    | c :: rest =>
      match hexValue? c with
      | some digit => readCode? spaced left (16 * code + digit) rest
      | none => none

def codeLength? : Char → Option Nat
  | 'x' => some 2
  | 'u' => some 4
  | 'U' => some 8
  | _ => none

def escaped? (c : Char) : Option Pattern :=
  match c with
  | 'd' | 's' | 'w' => some (.shorthand false)
  | 'D' | 'S' | 'W' => some (.shorthand true)
  | 'A' | 'z' => some .anchor
  | 'b' | 'B' | '<' | '>' => some .wordEdge
  | 'a' => some (.literal { char := '\x07' })
  | 'f' => some (.literal { char := '\x0c' })
  | 't' => some (.literal { char := '\t' })
  | 'n' => some (.literal { char := '\n' })
  | 'r' => some (.literal { char := '\r' })
  | 'v' => some (.literal { char := '\x0b' })
  | _ =>
    if c.toNat < 128 && !c.isAlphanum then some (.literal { char := c }) else none

def readEscape? (spaced : Bool) : List Char → Option (Pattern × List Char)
  | [] => none
  | c :: cs =>
    match codeLength? c with
    | some length => do
      let (char, rest) ← readCode? spaced length 0 cs
      some (.literal { char, isByte := length == 2 }, rest)
    | none => (escaped? c).map fun p => (p, cs)

end Pattern

end IntConsole
