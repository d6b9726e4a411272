/-!
This module contains the texts that are read as a number with a fraction and an exponent, both of
which can be missing. Only their shape matters here and not the number that they denote.
-/

namespace IntConsole

namespace Real

def isExponent (cs : List Char) : Bool :=
  match cs with
  | '+' :: ds | '-' :: ds => !ds.isEmpty && ds.all Char.isDigit
  | ds => !ds.isEmpty && ds.all Char.isDigit

def isUnsigned (cs : List Char) : Bool :=
  let whole := cs.takeWhile Char.isDigit
  let rest := cs.dropWhile Char.isDigit
  let (fraction, rest) := match rest with
    | '.' :: ds => (ds.takeWhile Char.isDigit, ds.dropWhile Char.isDigit)
    | _ => ([], rest)
  !(whole ++ fraction).isEmpty && match rest with
    | [] => true
    | 'e' :: ds | 'E' :: ds => isExponent ds
    | _ => false

def isNumber (s : String) : Bool :=
  let unsigned := match s.toList with
    | '+' :: cs | '-' :: cs => cs
    | cs => cs
  isUnsigned unsigned
    || ["inf", "infinity", "nan"].contains (String.ofList (unsigned.map Char.toLower))

end Real

end IntConsole
