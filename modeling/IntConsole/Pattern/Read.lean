import IntConsole.Pattern.Set
import IntConsole.Text.Alphanumeric

/-!
This module contains the reader of patterns. It takes a pattern from left to right and keeps the
groups that are open on a stack.
-/

namespace IntConsole

namespace Pattern

def readChanges? (cs : List Char) : Option (Changes × Char × List Char) :=
  let isFlag := fun c => c != ':' && c != ')'
  let written := cs.takeWhile isFlag
  match cs.dropWhile isFlag with
  | [] => none
  | delimiter :: rest =>
    let cleared := written.dropWhile (· != '-')
    if written.Nodup ∧ cleared ≠ ['-'] then do
      let on ← (written.takeWhile (· != '-')).mapM Flag.ofLetter?
      let off ← cleared.tail.mapM Flag.ofLetter?
      some (on.map (·, true) ++ off.map (·, false), delimiter, rest)
    else
      none

def readName? (cs : List Char) : Option (String × List Char) :=
  match cs.takeWhile (· != '>'), cs.dropWhile (· != '>') with
  | first :: others, _ :: rest =>
    if (first == '_' || Text.isAlphabetic first) && others.all isNamePart then
      some (String.ofList (first :: others), rest)
    else
      none
  | _, _ => none
where
  isNamePart (c : Char) : Bool :=
    c == '_' || c == '.' || c == '[' || c == ']' || Text.isAlphanumeric c

structure OpenGroup where
  changes : Changes
  spaced : Bool
  branches : List Pattern
  items : List Pattern

structure Reader where
  spaced : Bool := false
  names : List String := []
  groups : List OpenGroup := []
  branches : List Pattern := []
  items : List Pattern := []

namespace Reader

def add (r : Reader) (p : Pattern) : Reader :=
  { r with items := p :: r.items }

def body (r : Reader) : Pattern :=
  .choice (.sequence r.items.reverse :: r.branches).reverse

def branch (r : Reader) : Reader :=
  { r with branches := .sequence r.items.reverse :: r.branches, items := [] }

def repeat? (r : Reader) : Option Reader :=
  match r.items with
  | [] => none
  | .flags _ :: _ => none
  | p :: ps => some { r with items := .repeated p :: ps }

def spacedAfter (r : Reader) (changes : Changes) : Bool :=
  (changes.lookup .spaced).getD r.spaced

def change (r : Reader) (changes : Changes) : Reader :=
  { r.add (.flags changes) with spaced := r.spacedAfter changes }

def openGroup (r : Reader) (changes : Changes) : Reader :=
  { r with
    spaced := r.spacedAfter changes
    groups := ⟨changes, r.spaced, r.branches, r.items⟩ :: r.groups
    branches := []
    items := [] }

def closeGroup? (r : Reader) : Option Reader :=
  match r.groups with
  | [] => none
  | g :: groups =>
    some { r with
      spaced := g.spaced
      groups
      branches := g.branches
      items := .group g.changes r.body :: g.items }

def openNamed? (r : Reader) (cs : List Char) : Option (Reader × List Char) := do
  let (name, rest) ← readName? cs
  if r.names.contains name then
    none
  else
    some ({ r with names := name :: r.names }.openGroup [], rest)

def takeGroup? (r : Reader) (cs : List Char) : Option (Reader × List Char) :=
  match skipSpace r.spaced cs with
  | '?' :: 'P' :: '<' :: rest => r.openNamed? rest
  | '?' :: '<' :: rest => r.openNamed? rest
  | '?' :: rest => do
    let (changes, delimiter, rest) ← readChanges? rest
    if delimiter = ':' then some (r.openGroup changes, rest)
    else if changes.isEmpty then none
    else some (r.change changes, rest)
  | rest => some (r.openGroup [], rest)

def take? (r : Reader) (c : Char) (cs : List Char) : Option (Reader × List Char) :=
  match c with
  | '(' => r.takeGroup? cs
  | ')' => r.closeGroup?.map fun r => (r, cs)
  | '|' => some (r.branch, cs)
  | '[' => (readSet? r.spaced cs).map fun (p, rest) => (r.add p, rest)
  | '?' | '*' | '+' =>
    r.repeat?.map fun r => (r, if cs.head? = some '?' then cs.tail else cs)
  | '\x7b' => none
  | '\\' => (readEscape? r.spaced cs).map fun (p, rest) => (r.add p, rest)
  | '.' => some (r.add .dot, cs)
  | '^' | '$' => some (r.add .anchor, cs)
  | _ => some (r.add (.literal { char := c }), cs)

end Reader

def read? (s : String) : Option Pattern :=
  go (s.toList.length + 1) {} s.toList
where
  /--
  Go on with a pattern. Every step takes at least one character, so the length of the text bounds
  their number.
  -/
  go : Nat → Reader → List Char → Option Pattern
    | 0, _, _ => none
    | fuel + 1, r, cs =>
      match skipSpace r.spaced cs with
      | [] => if r.groups.isEmpty then some r.body else none
      | c :: cs =>
        match r.take? c cs with
        | some (r, cs) => go fuel r cs
        | none => none

end Pattern

end IntConsole
