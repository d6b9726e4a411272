import IntConsole.CommandLine.Token
import IntConsole.Config
import IntConsole.Text.Plain

/-!
This module contains the meaning of command lines. Words are taken from left to right, so the first
problem is reported. What is wrong with the line as a whole, options that exclude each other or
missing calls, comes after that.
-/

namespace IntConsole

namespace CommandLine

inductive Flag where
  | abi
  | strict
  | prompt
  | verbose
  | help
  | version
  deriving DecidableEq

namespace Flag

def all : List Flag :=
  [abi, strict, prompt, verbose, help, version]

def name : Flag → String
  | abi => "abi"
  | strict => "strict"
  | prompt => "prompt"
  | verbose => "verbose"
  | help => "help"
  | version => "version"

def shown : Flag → String
  | prompt => "--prompt <PROMPT>"
  | f => "--" ++ f.name

def ofName? (name : String) : Option Flag :=
  all.find? fun f => f.name == name

def ofLetter? : Char → Option Flag
  | 'v' => some verbose
  | 'h' => some help
  | 'V' => some version
  | _ => none

def excluded : Flag → List Flag
  | abi => [strict, prompt]
  | strict => [abi]
  | prompt => [abi]
  | _ => []

end Flag

inductive Refusal where
  | unknownArgument (shown : String)
  | unexpectedValue (value : String) (f : Flag)
  | missingValue
  | repeated (f : Flag)
  | conflict (first : Flag) (others : List Flag)
  | missingCalls
  deriving DecidableEq

/--
The first line of what is told about a refusal. Parts of the command line are shown plain, and the
line ends where one of them has a newline.
-/
def Refusal.message : Refusal → String
  | unknownArgument shown =>
    Text.firstLine ("error: unexpected argument '" ++ Text.plain shown ++ "' found")
  | unexpectedValue value f =>
    Text.firstLine
      ("error: unexpected value '" ++ Text.plain value ++ "' for '" ++ f.shown
        ++ "' found; no more were expected")
  | missingValue =>
    "error: a value is required for '" ++ Flag.prompt.shown ++ "' but none was supplied"
  | repeated f => "error: the argument '" ++ f.shown ++ "' cannot be used multiple times"
  | conflict first others =>
    "error: the argument '" ++ first.shown ++ "' cannot be used with"
      ++ match others with
        | [other] => " '" ++ other.shown ++ "'"
        | _ => ":"
  | missingCalls => "error: the following required arguments were not provided:"

inductive Stop where
  | help (long : Bool)
  | version
  | refused (r : Refusal)
  deriving DecidableEq

structure Settings where
  abi : Bool := false
  strict : Bool := false
  prompt : Option String := none
  verbose : Bool := false
  calls : List String
  deriving DecidableEq

def Settings.config (s : Settings) : Config where
  prompt := s.prompt.getD defaultPrompt
  onReadFailure := if s.strict then .propagate else .fallback 0

/--
A prompt whose value is the next word, if that can be one. It is not settled before another option
or a call is met.
-/
inductive Awaited where
  | nothing
  | value
  | settling (value : String)
  deriving DecidableEq

structure Line where
  given : List Flag := []
  prompt : Option String := none
  awaited : Awaited := .nothing
  calls : List String := []

namespace Line

def setPrompt (l : Line) (value : String) : Except Stop Line :=
  if .prompt ∈ l.given then
    .error (.refused (.repeated .prompt))
  else
    .ok { l with given := l.given ++ [.prompt], prompt := some value, awaited := .nothing }

def settle (l : Line) : Except Stop Line :=
  match l.awaited with
  | .nothing => .ok l
  | .value => .error (.refused .missingValue)
  | .settling value => l.setPrompt value

def takeFlag (l : Line) (f : Flag) (long : Bool) : Except Stop Line := do
  let l ← l.settle
  match f with
  | .help => .error (.help long)
  | .version => .error .version
  | .prompt => .ok { l with awaited := .value }
  | f =>
    if f ∈ l.given then
      .error (.refused (.repeated f))
    else
      .ok { l with given := l.given ++ [f] }

/--
Take an option in long form. Unknown names and values that are not expected are reported before a
prompt is settled.
-/
def takeLong (l : Line) (name : String) (value : Option String) : Except Stop Line :=
  match Flag.ofName? name, value with
  | none, _ => .error (.refused (.unknownArgument ("--" ++ name)))
  | some f, none => l.takeFlag f true
  | some .prompt, some value => do
    let l ← l.settle
    l.setPrompt value
  | some f, some value => .error (.refused (.unexpectedValue value f))

def takeShort (l : Line) : List Char → Except Stop Line
  | [] => .ok l
  | letter :: letters =>
    match Flag.ofLetter? letter with
    | none => .error (.refused (.unknownArgument (String.ofList ['-', letter])))
    | some f => do
      let l ← l.takeFlag f false
      l.takeShort letters

def takeWord (l : Line) (text : String) : Except Stop Line :=
  match l.awaited with
  | .value => .ok { l with awaited := .settling text }
  | _ => do
    let l ← l.settle
    .ok { l with calls := l.calls ++ [text] }

def takeAll (l : Line) : List String → Except Stop Line
  | [] => l.settle
  | word :: words =>
    match Token.ofWord word with
    | .separator => do
      let l ← l.settle
      .ok { l with calls := l.calls ++ words }
    | .long name value => do
      let l ← l.takeLong name value
      l.takeAll words
    | .short letters => do
      let l ← l.takeShort letters
      l.takeAll words
    | .word text => do
      let l ← l.takeWord text
      l.takeAll words

def conflict? (l : Line) : Option (Flag × List Flag) :=
  l.given.findSome? fun f =>
    match f.excluded.filter (· ∈ l.given) with
    | [] => none
    | others => some (f, others)

def finish (l : Line) : Except Stop Settings :=
  match l.conflict? with
  | some (first, others) => .error (.refused (.conflict first others))
  | none =>
    if l.calls.isEmpty then
      .error (.refused .missingCalls)
    else
      .ok {
        abi := .abi ∈ l.given
        strict := .strict ∈ l.given
        prompt := l.prompt
        verbose := .verbose ∈ l.given
        calls := l.calls
      }

end Line

def parse (words : List String) : Except Stop Settings := do
  let l ← Line.takeAll {} words
  l.finish

end CommandLine

end IntConsole
