import IntConsole.Log.Entry
import IntConsole.Numeral.Real
import IntConsole.Pattern.Usable

/-!
This module contains the directives of a filter. A directive is a level for everything, or a target,
a span and a field in brackets and a level with an equals sign in front, most of which can be left
out.
-/

namespace IntConsole

namespace Log

structure FieldTest where
  name : String
  value : Option String := none
  deriving DecidableEq

structure Directive where
  target : String := ""
  span : Option String := none
  field : Option FieldTest := none
  level : Option Level := some .trace
  deriving DecidableEq

def FieldTest.read? (s : String) : Option FieldTest :=
  let name := String.ofList (s.toList.takeWhile (· != '='))
  match s.toList.dropWhile (· != '=') with
  | [] => if name.isEmpty then none else some ⟨name, none⟩
  | _ :: rest =>
    let value := String.ofList (rest.takeWhile (· != '='))
    if Real.isNumber value || Pattern.isUsable value then some ⟨name, some value⟩ else none

def Level.read? (s : String) : Option (Option Level) :=
  let digits := match s.toList with
    | '+' :: ds => ds
    | ds => ds
  if !digits.isEmpty && digits.all Char.isDigit then
    ofVerbosity? (Numeral.magnitude (Text.bytes (String.ofList digits)))
  else if s.toUpper = "OFF" then
    some none
  else
    all.find? (fun l => l.name = s.toUpper) |>.map some
where
  ofVerbosity? (n : Nat) : Option (Option Level) :=
    if n = 0 then some none else all.find? (fun l => l.verbosity = n) |>.map some

/--
What is left of a directive. Delimiters are looked for in its shape, which has no blanks at its
ends. The parts between them are taken from its text, which is as it was written, at the same
offsets in UTF-8. So blanks in front of a directive shift its parts.
-/
structure Piece where
  shape : List Char
  text : List Char

namespace Piece

def ofString (s : String) : Piece where
  shape := (Text.trimmed s).toList
  text := s.toList

def splitBytes : Nat → List Char → List Char × List Char
  | _, [] => ([], [])
  | n, c :: cs =>
    if c.utf8Size ≤ n then
      let (front, back) := splitBytes (n - c.utf8Size) cs
      (c :: front, back)
    else
      ([], c :: cs)

def advance (p : Piece) (n : Nat) : String × Piece :=
  let (part, text) := splitBytes (String.ofList (p.shape.take n)).utf8ByteSize p.text
  (String.ofList part, ⟨p.shape.drop n, text⟩)

def cut (p : Piece) (delimiters : List Char) : String × Piece :=
  p.advance (p.shape.takeWhile fun c => !delimiters.contains c).length

def skip (p : Piece) : Piece :=
  (p.advance 1).2

end Piece

namespace Directive

def startsTarget (c : Char) : Bool :=
  c == '-' || c == ':' || c == '_' || Text.isAlphanumeric c

def readEnd? (d : Directive) (p : Piece) : Option Directive :=
  match p.shape with
  | [] => some d
  | '=' :: _ =>
    let level := String.ofList p.skip.text
    if level.isEmpty then some d else (Level.read? level).map fun level => { d with level }
  | _ => none

def readBracket? (d : Directive) (p : Piece) : Option Directive :=
  let (span, rest) := p.cut [']', '\x7b']
  match rest.shape with
  | ']' :: _ => { d with span := some span }.readEnd? rest.skip
  | '\x7b' :: _ =>
    let (field, rest) := rest.skip.cut ['\x7d']
    match rest.skip.shape, FieldTest.read? field with
    | ']' :: _, some field =>
      let span := if span.isEmpty then none else some span
      { d with span, field := some field }.readEnd? rest.skip.skip
    | _, _ => none
  | _ => none

def read? (s : String) : Option Directive :=
  let p := Piece.ofString s
  match p.shape with
  | [] => none
  | '[' :: _ => ({} : Directive).readBracket? p.skip
  | c :: _ =>
    if startsTarget c then
      let (target, rest) := p.cut ['=', '[']
      match rest.shape with
      | [] =>
        match Level.read? s with
        | some level => some { level }
        | none => some { target := s }
      | '[' :: _ => ({ target } : Directive).readBracket? rest.skip
      | _ => ({ target } : Directive).readEnd? rest
    else
      none

/--
Whether a directive concerns an entry. Entries are made outside of all spans, and the values of
their fields are not compared with anything.
-/
def concerns (d : Directive) (e : Entry) : Bool :=
  d.span.isNone
    && d.field.all (fun f => f.value.isNone && e.fieldNames.contains f.name)
    && d.target.toList.isPrefixOf e.target.toList

/--
Whether a directive gives way to another one that concerns the same entry: a longer target is in
force, and among targets of one length a field, the one that is last in order.
-/
def givesWay (d other : Directive) : Bool :=
  if d.target.length = other.target.length then
    match d.field, other.field with
    | none, _ => true
    | some _, none => false
    | some f, some g => !decide (g.name < f.name)
  else
    d.target.length < other.target.length

end Directive

end Log

end IntConsole
