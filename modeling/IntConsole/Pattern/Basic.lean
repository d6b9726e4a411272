/-!
This module contains patterns, which are regular expressions, as far as it matters whether they can
be used: what is written in them and how deep it is nested, but not how it is matched.
-/

namespace IntConsole

namespace Pattern

inductive Flag where
  | ignoreCase
  | multiLine
  | dotNewline
  | swapGreed
  | unicode
  | carriageReturn
  | spaced
  deriving DecidableEq

def Flag.ofLetter? : Char → Option Flag
  | 'i' => some ignoreCase
  | 'm' => some multiLine
  | 's' => some dotNewline
  | 'U' => some swapGreed
  | 'u' => some unicode
  | 'R' => some carriageReturn
  | 'x' => some spaced
  | _ => none

abbrev Changes := List (Flag × Bool)

structure Literal where
  char : Char
  isByte : Bool := false

mutual

inductive Member where
  | literal (l : Literal)
  | range (first last : Literal)
  | named (negated : Bool)
  | shorthand (negated : Bool)
  | bracket (negated : Bool) (s : CharSet)

inductive CharSet where
  | union (members : List Member)
  | combined (left right : CharSet)

end

end Pattern

inductive Pattern where
  | literal (l : Pattern.Literal)
  | dot
  | anchor
  | wordEdge
  | shorthand (negated : Bool)
  | set (negated : Bool) (s : Pattern.CharSet)
  | flags (changes : Pattern.Changes)
  | repeated (p : Pattern)
  | group (changes : Pattern.Changes) (p : Pattern)
  | sequence (ps : List Pattern)
  | choice (ps : List Pattern)

namespace Pattern

/--
The level that a list adds to the nesting of what is in it. A list of one is not a level of its own.
-/
def levelOf (length : Nat) : Nat :=
  if length ≤ 1 then 0 else 1

mutual

def Member.nesting : Member → Nat
  | .bracket _ s => 1 + s.nesting
  | _ => 0

def CharSet.nesting : CharSet → Nat
  | .union members => levelOf members.length + Member.nestingOfAll members
  | .combined left right => 1 + max left.nesting right.nesting

def Member.nestingOfAll : List Member → Nat
  | [] => 0
  | m :: ms => max m.nesting (Member.nestingOfAll ms)

end

mutual

def nesting : Pattern → Nat
  | .set _ s => 1 + s.nesting
  | .repeated p => 1 + p.nesting
  | .group _ p => 1 + p.nesting
  | .sequence ps => levelOf ps.length + nestingOfAll ps
  | .choice ps => levelOf ps.length + nestingOfAll ps
  | _ => 0

def nestingOfAll : List Pattern → Nat
  | [] => 0
  | p :: ps => max p.nesting (nestingOfAll ps)

end

end Pattern

end IntConsole
