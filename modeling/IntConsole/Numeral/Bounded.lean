import IntConsole.Numeral.Basic

/-!
This module contains the reader of integers that have to fit into 64 bits. The digits are added up
from left to right, so the first place where something is wrong decides which defect is reported.
-/

namespace IntConsole

namespace Numeral

inductive Defect where
  | empty
  | invalidDigit
  | tooLarge
  | tooSmall
  deriving DecidableEq

def Defect.message : Defect → String
  | empty => "cannot parse integer from empty string"
  | invalidDigit => "invalid digit found in string"
  | tooLarge => "number too large to fit in target type"
  | tooSmall => "number too small to fit in target type"

def Defect.ofSign : Sign → Defect
  | .plus => tooLarge
  | .minus => tooSmall

def readBounded (text : List UInt8) : Except Defect Int64 :=
  match text with
  | [] => .error .empty
  | b :: rest =>
    match Sign.ofByte? b with
    | none => go .plus 0 text
    | some sign => if rest.isEmpty then .error .invalidDigit else go sign 0 rest
where
  go (sign : Sign) (acc : Int) : List UInt8 → Except Defect Int64
    | [] => .ok (Int64.ofInt acc)
    | b :: rest =>
      if Byte.isDigit b then
        let next := 10 * acc + sign.apply (Byte.digitValue b)
        if Fits next then go sign next rest else .error (.ofSign sign)
      else
        .error .invalidDigit

end Numeral

end IntConsole
