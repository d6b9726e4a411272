import IntConsole.Pattern.Read

/-!
This module contains the patterns that can be used. Those are left out that are nested too deep,
that need tables of the case, the words or the digits of all scripts, or that stand for bytes that
are no text.
-/

namespace IntConsole

namespace Pattern

structure Modes where
  ignoreCase : Bool := false
  unicode : Bool := true

def Modes.change (m : Modes) (changes : Changes) : Modes where
  ignoreCase := (changes.lookup .ignoreCase).getD m.ignoreCase
  unicode := (changes.lookup .unicode).getD m.unicode

/--
Whether the case of code points would have to be ignored, which needs a table.
-/
def Modes.foldsCode (m : Modes) : Bool :=
  m.unicode && m.ignoreCase

def Literal.isUsable (l : Literal) (m : Modes) : Bool :=
  !m.foldsCode && (m.unicode || !l.isByte || l.char.toNat < 128)

def Literal.isUsableMember (l : Literal) (m : Modes) : Bool :=
  !m.foldsCode && (m.unicode || l.char.toNat < 128)

mutual

/--
Whether a member of a set can be used. The complement of a set of bytes would hold bytes beyond
ASCII, and the complement of the empty set is not empty.
-/
def Member.isUsable (m : Modes) : Member → Bool
  | .literal l => l.isUsableMember m
  | .range first last => first.isUsableMember m && last.isUsableMember m
  | .named negated => !m.foldsCode && (m.unicode || !negated)
  | .shorthand negated => !m.unicode && !negated
  | .bracket negated s => s.isUsable m && !(negated && (m.foldsCode || !m.unicode))

def CharSet.isUsable (m : Modes) : CharSet → Bool
  | .union members => Member.allUsable m members
  | .combined left right => left.isUsable m && right.isUsable m

def Member.allUsable (m : Modes) : List Member → Bool
  | [] => true
  | x :: xs => x.isUsable m && Member.allUsable m xs

end

mutual

def settle? (m : Modes) : Pattern → Option Modes
  | .literal l => if l.isUsable m then some m else none
  | .dot => if m.unicode then some m else none
  | .anchor => some m
  | .wordEdge => if m.unicode then none else some m
  | .shorthand negated => if !m.unicode && !negated then some m else none
  | .set negated s => if s.isUsable m && (m.unicode || !negated) then some m else none
  | .flags changes => some (m.change changes)
  | .repeated p => settle? m p
  | .group changes p => (settle? (m.change changes) p).map fun _ => m
  | .sequence ps => settleAll? m ps
  | .choice ps => settleAll? m ps

/--
The flags that are in force behind patterns in a row. Those that one branch changes are in force in
the next one.
-/
def settleAll? (m : Modes) : List Pattern → Option Modes
  | [] => some m
  | p :: ps =>
    match settle? m p with
    | some m => settleAll? m ps
    | none => none

end

def maxNesting : Nat :=
  250

def isUsable (s : String) : Bool :=
  match read? s with
  | some p => p.nesting ≤ maxNesting && (settle? {} p).isSome
  | none => false

end Pattern

end IntConsole
