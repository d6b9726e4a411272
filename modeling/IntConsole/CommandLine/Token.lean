/-!
This module contains the words of a command line and what they look like: options in long form,
clusters of options in short form, the separator behind which there are no options, and everything
else.
-/

namespace IntConsole

namespace CommandLine

inductive Token where
  | separator
  | long (name : String) (value : Option String)
  | short (letters : List Char)
  | word (text : String)
  deriving DecidableEq

def Token.ofWord (s : String) : Token :=
  match s.toList with
  | ['-', '-'] => separator
  | '-' :: '-' :: rest =>
    let name := String.ofList (rest.takeWhile (· != '='))
    match rest.dropWhile (· != '=') with
    | [] => long name none
    | _ :: value => long name (some (String.ofList value))
  | '-' :: letter :: letters => short (letter :: letters)
  | _ => word s

end CommandLine

end IntConsole
