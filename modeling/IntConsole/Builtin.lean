/-!
This module contains the builtins of the console and their signatures.
-/

namespace IntConsole

inductive ValueType where
  | int
  | bool
  | void
  deriving DecidableEq

inductive Builtin where
  | readInt
  | printBool
  | printInt
  | println
  deriving DecidableEq

namespace Builtin

def all : List Builtin :=
  [readInt, printBool, printInt, println]

def symbol : Builtin → String
  | readInt => "readInt"
  | printBool => "printBool"
  | printInt => "printInt"
  | println => "println"

def ofSymbol? (name : String) : Option Builtin :=
  all.find? fun b => b.symbol == name

def params : Builtin → List ValueType
  | readInt => []
  | printBool => [.bool]
  | printInt => [.int]
  | println => []

def returns : Builtin → ValueType
  | readInt => .int
  | printBool => .void
  | printInt => .void
  | println => .void

theorem symbol_injective {a b : Builtin} (h : a.symbol = b.symbol) : a = b := by
  cases a <;> cases b <;> simp_all [symbol]

@[simp]
theorem ofSymbol?_symbol (b : Builtin) : ofSymbol? b.symbol = some b := by
  cases b <;> decide

theorem ofSymbol?_eq_some {name : String} {b : Builtin} :
    ofSymbol? name = some b ↔ name = b.symbol := by
  constructor
  . intro h
    exact (beq_iff_eq.1 (List.find?_some h :)).symm
  . rintro rfl
    simp

theorem ofSymbol?_eq_none {name : String} :
    ofSymbol? name = none ↔ ∀ b : Builtin, name ≠ b.symbol := by
  constructor
  . rintro h b rfl
    simp at h
  . intro h
    cases hb : ofSymbol? name with
    | none => rfl
    | some b => exact absurd (ofSymbol?_eq_some.1 hb) (h b)

end Builtin

end IntConsole
