import CrudScaffold.Text

set_option autoImplicit false

/-! # Digits

The values of digits in a base, characters named by hexadecimal digits, and numbers of 64 bits. -/

namespace CrudScaffold

/-- The value of a digit. Letters count from ten, in either case. -/
def digitValue (c : Char) : Nat :=
  if c.isDigit then c.toNat - '0'.toNat else (Text.asciiLower c).toNat - 'a'.toNat + 10

/-- Whether a character is a digit of a base. -/
def isDigitOf (base : Nat) (c : Char) : Bool :=
  (c.isDigit || ('a' ≤ Text.asciiLower c && Text.asciiLower c ≤ 'z')) && digitValue c < base

/-- The number that digits of a base stand for. -/
def Text.valueIn (base : Nat) (digits : Text) : Nat :=
  digits.foldl (fun n c => base * n + digitValue c) 0

/-- The character that hexadecimal digits name, if they name one. -/
def Text.codePoint? (digits : Text) : Option Char :=
  if digits.all (isDigitOf 16) ∧ (Text.valueIn 16 digits).isValidChar then
    some (Char.ofNat (Text.valueIn 16 digits))
  else none

/-- The natural number below `2 ^ 64` that digits with an optional plus sign stand for. -/
def Text.unsigned? (s : Text) : Option Nat :=
  let digits := match s with
    | '+' :: digits => digits
    | digits => digits
  if digits ≠ [] ∧ digits.all Char.isDigit ∧ Text.valueIn 10 digits < Nat.pow 2 64 then
    some (Text.valueIn 10 digits)
  else none

end CrudScaffold
