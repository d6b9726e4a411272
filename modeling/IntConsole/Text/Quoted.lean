import IntConsole.Byte
import IntConsole.Text.Visible

/-!
This module contains the quoted form of a text, which shows every character of it on one line.
-/

namespace IntConsole

namespace Text

def hexDigits (n : Nat) : List Char :=
  if n < 16 then
    [Byte.hexDigit n]
  else
    hexDigits (n / 16) ++ [Byte.hexDigit (n % 16)]

def quotedChar (c : Char) : List Char :=
  match c with
  | '"' => ['\\', '"']
  | '\\' => ['\\', '\\']
  | '\n' => ['\\', 'n']
  | '\r' => ['\\', 'r']
  | '\t' => ['\\', 't']
  | '\x00' => ['\\', '0']
  | c =>
    if isVisible c then
      [c]
    else
      ['\\', 'u', '\x7b'] ++ hexDigits c.toNat ++ ['\x7d']

def quoted (s : String) : String :=
  String.ofList ('"' :: s.toList.flatMap quotedChar ++ ['"'])

end Text

end IntConsole
