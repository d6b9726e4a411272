import IntConsole.Pattern.Escape

/-!
This module contains the reader of the sets of characters in a pattern.
-/

namespace IntConsole

namespace Pattern

structure OpenSet where
  negated : Bool
  atStart : Bool := true
  left : Option CharSet := none
  members : List Member := []

namespace OpenSet

def add (o : OpenSet) (m : Member) : OpenSet :=
  { o with atStart := false, members := m :: o.members }

def toSet (o : OpenSet) : CharSet :=
  let right := CharSet.union o.members.reverse
  match o.left with
  | none => right
  | some left => .combined left right

def operate (o : OpenSet) : OpenSet :=
  { o with atStart := false, left := some o.toSet, members := [] }

def start (spaced : Bool) (cs : List Char) : OpenSet × List Char :=
  match skipSpace spaced cs with
  | '^' :: rest => ({ negated := true }, rest)
  | rest => ({ negated := false }, rest)

end OpenSet

def classNames : List String :=
  ["alnum", "alpha", "ascii", "blank", "cntrl", "digit", "graph", "lower", "print", "punct",
    "space", "upper", "word", "xdigit"]

def readNamed? : List Char → Option (Member × List Char)
  | ':' :: cs =>
    let (negated, cs) := match cs with
      | '^' :: rest => (true, rest)
      | _ => (false, cs)
    match cs.dropWhile (· != ':') with
    | ':' :: ']' :: rest =>
      if classNames.contains (String.ofList (cs.takeWhile (· != ':'))) then
        some (.named negated, rest)
      else
        none
    | _ => none
  | _ => none

def readItem? (spaced : Bool) : List Char → Option (Pattern × List Char)
  | [] => none
  | '\\' :: cs => readEscape? spaced cs
  | c :: cs => some (.literal { char := c }, cs)

/--
The character that decides whether a dash in front of the given text belongs to a range. Behind
space, this is the next one. Of a comment, only the mark counts as space and not its text.
-/
def decisive? (spaced : Bool) (cs : List Char) : Option Char :=
  if spaced then
    let next := match cs.dropWhile Text.isBlank with
      | '#' :: rest => (rest.dropWhile Text.isBlank).head?
      | rest => rest.head?
    next.or cs.head?
  else
    cs.head?

def readMember? (spaced : Bool) (cs : List Char) : Option (Member × List Char) := do
  let (item, rest) ← readItem? spaced cs
  match skipSpace spaced rest with
  | [] => none
  | '-' :: behind =>
    if decisive? spaced behind = some ']' ∨ decisive? spaced behind = some '-' then
      single item ('-' :: behind)
    else
      let (last, rest) ← readItem? spaced (skipSpace spaced behind)
      match item, last with
      | .literal first, .literal last =>
        if first.char ≤ last.char then some (.range first last, rest) else none
      | _, _ => none
  | rest => single item rest
where
  single (item : Pattern) (rest : List Char) : Option (Member × List Char) :=
    match item with
    | .literal l => some (.literal l, rest)
    | .shorthand negated => some (.shorthand negated, rest)
    | _ => none

def readSet? (spaced : Bool) (cs : List Char) : Option (Pattern × List Char) :=
  let (o, rest) := OpenSet.start spaced cs
  go (rest.length + 1) o [] rest
where
  /--
  Go on in a set. The sets around it are given from the inside to the outside. Every step takes at
  least one character, so the length of the text bounds their number.
  -/
  go : Nat → OpenSet → List OpenSet → List Char → Option (Pattern × List Char)
    | 0, _, _, _ => none
    | fuel + 1, o, outer, cs =>
      match o.atStart, o.members, skipSpace spaced cs with
      | _, _, [] => none
      | true, members, '-' :: rest =>
        go fuel { o with members := .literal { char := '-' } :: members } outer rest
      | true, [], ']' :: rest => go fuel (o.add (.literal { char := ']' })) outer rest
      | _, _, '[' :: rest =>
        match readNamed? rest with
        | some (m, rest) => go fuel (o.add m) outer rest
        | none =>
          let (inner, rest) := OpenSet.start spaced rest
          go fuel inner (o :: outer) rest
      | _, _, ']' :: rest =>
        match outer with
        | [] => some (.set o.negated o.toSet, rest)
        | around :: outer => go fuel (around.add (.bracket o.negated o.toSet)) outer rest
      | _, _, '&' :: '&' :: rest => go fuel o.operate outer rest
      | _, _, '-' :: '-' :: rest => go fuel o.operate outer rest
      | _, _, '~' :: '~' :: rest => go fuel o.operate outer rest
      | _, _, rest =>
        match readMember? spaced rest with
        | some (m, rest) => go fuel (o.add m) outer rest
        | none => none

end Pattern

end IntConsole
