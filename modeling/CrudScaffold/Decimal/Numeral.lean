import CrudScaffold.Text.Digits

set_option autoImplicit false

/-! # Numerals

Numbers as they are written in decimal: digits with an optional sign, point and exponent. The
value of a numeral is exact; rounding is the business of `CrudScaffold.Decimal.Binary64`. -/

namespace CrudScaffold

/-- The number `± digits · 10 ^ exponent`. -/
structure Numeral where
  negative : Bool
  digits : Nat
  exponent : Int
  deriving DecidableEq, Repr

/-- A sign at the start of a text, as whether it is a minus sign, and the rest. -/
def Text.takeSign : Text → Bool × Text
  | '-' :: s => (true, s)
  | '+' :: s => (false, s)
  | s => (false, s)

namespace Numeral

/-- The exponent part of a numeral: nothing, or `e` with an optional sign and at least one digit. -/
def readExponent? : Text → Option Int
  | [] => some 0
  | c :: s =>
    if c = 'e' ∨ c = 'E' then
      let (negative, digits) := Text.takeSign s
      if digits = [] ∨ !digits.all Char.isDigit then none
      else
        let value : Int := Text.valueIn 10 digits
        some (if negative then -value else value)
    else none

/-- A numeral as it is written. -/
structure Parts where
  negative : Bool
  /-- The digits before the point. -/
  whole : Text
  /-- The digits after the point. -/
  fraction : Text
  exponent : Int
  deriving DecidableEq, Repr

/-- Take a numeral apart: an optional sign, digits with an optional point among or beside them, and
an optional exponent. At least one digit must precede the exponent. -/
def parts? (s : Text) : Option Parts :=
  let (negative, s) := Text.takeSign s
  let whole := s.takeWhile Char.isDigit
  let (fraction, tail) := match s.dropWhile Char.isDigit with
    | '.' :: s => (s.takeWhile Char.isDigit, s.dropWhile Char.isDigit)
    | s => ([], s)
  if whole = [] ∧ fraction = [] then none
  else (readExponent? tail).map fun exponent => ⟨negative, whole, fraction, exponent⟩

/-- The numeral that some parts make. -/
def ofParts (parts : Parts) : Numeral :=
  ⟨parts.negative, Text.valueIn 10 (parts.whole ++ parts.fraction),
    parts.exponent - parts.fraction.length⟩

/-- Read a numeral. -/
def read? (s : Text) : Option Numeral := (parts? s).map ofParts

end Numeral

end CrudScaffold
