/-!
This module contains the plain form of a text: what is left of it when the control sequences that a
terminal would obey, and the controls that have no width, are taken out.
-/

namespace IntConsole

namespace Text

inductive Position where
  | outside
  | escape
  | escapeIntermediate
  | control
  | deviceEntry
  | deviceParameter
  | deviceIntermediate
  | string
  | command
  deriving DecidableEq

namespace Position

def isLayout (c : Char) : Bool :=
  c == '\t' || c == '\n' || c == '\x0c' || c == '\r'

def within (c : Char) (first last : Nat) : Bool :=
  first ≤ c.toNat && c.toNat ≤ last

def ofEscaped (c : Char) : Position :=
  if within c 0x20 0x2f then escapeIntermediate
  else if c = '[' then control
  else if c = ']' then command
  else if c = 'P' then deviceEntry
  else if c = 'X' ∨ c = '^' ∨ c = '_' then string
  else if within c 0x30 0x7e then outside
  else escape

def advance (p : Position) (c : Char) : Position :=
  match p with
  | outside => outside
  | escape => if isLayout c then outside else ofEscaped c
  | escapeIntermediate => if isLayout c || within c 0x30 0x7e then outside else escapeIntermediate
  | control => if isLayout c || within c 0x40 0x7e then outside else control
  | deviceEntry =>
    if within c 0x20 0x2f then deviceIntermediate
    else if within c 0x30 0x3f then deviceParameter
    else if within c 0x40 0x7e then string
    else deviceEntry
  | deviceParameter =>
    if within c 0x20 0x2f then deviceIntermediate
    else if within c 0x3c 0x7e then string
    else deviceParameter
  | deviceIntermediate => if within c 0x30 0x7e then string else deviceIntermediate
  | string => if (String.utf8EncodeChar c).contains 0x9c then outside else string
  | command => if c = '\x07' then outside else command

/--
The position behind a character. The escape character starts a sequence wherever it stands, and
cancel and substitute end the sequence that they stand in.
-/
def next (p : Position) (c : Char) : Position :=
  if c = '\x1b' then escape
  else if c = '\x18' ∨ c = '\x1a' then outside
  else p.advance c

/--
Whether a character at this position belongs to the plain text. Layout belongs to it even where it
breaks off a sequence.
-/
def keeps (p : Position) (c : Char) : Bool :=
  match p with
  | outside => isLayout c || (0x20 ≤ c.toNat && c != '\x7f')
  | escape | escapeIntermediate | control => isLayout c
  | _ => false

end Position

def plain (s : String) : String :=
  String.ofList (go .outside s.toList)
where
  go (p : Position) : List Char → List Char
    | [] => []
    | c :: cs => if p.keeps c then c :: go (p.next c) cs else go (p.next c) cs

def firstLine (s : String) : String :=
  match s.toList.span (· != '\n') with
  | (_, []) => s
  | (line, _) =>
    String.ofList (if line.getLast? = some '\r' then line.dropLast else line)

end Text

end IntConsole
