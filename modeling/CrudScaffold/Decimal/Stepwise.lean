import CrudScaffold.Decimal.Binary64

set_option autoImplicit false

/-! # Reading in steps

A quick way to read a numeral as a floating-point number. As many digits as fit into 64 bits are
rounded to a floating-point number, which is then multiplied or divided by a rounded power of ten.
The result is near the numeral, but each step rounds, so that it need not be nearest. -/

namespace CrudScaffold.Binary64

/-- Append digits to a number as long as it stays below `2 ^ 64`: the result, and how many digits
are left over. -/
def appendDigits (n : Nat) : Text → Nat × Nat
  | [] => (n, 0)
  | c :: s =>
    let longer := 10 * n + digitValue c
    if longer < Nat.pow 2 64 then appendDigits longer s else (n, s.length + 1)

/-- The digits of a number that are kept and the power of ten that goes with them. -/
def kept (parts : Numeral.Parts) : Nat × Int :=
  let (n, skipped) := appendDigits 0 parts.whole
  let (n, dropped) := appendDigits n parts.fraction
  (n, parts.exponent + skipped - (parts.fraction.length - dropped : Nat))

/-- The fraction that a finite number is. -/
def fraction? : Binary64 → Option (Nat × Nat)
  | finite _ mantissa (.ofNat e) => some (mantissa * Nat.pow 2 e, 1)
  | finite _ mantissa (.negSucc e) => some (mantissa, Nat.pow 2 (e + 1))
  | _ => none

/-- The magnitude of a number multiplied by `10 ^ exponent`, where the power is rounded first and
then the product or quotient is. -/
def scaled (x : Binary64) (exponent : Int) : Binary64 :=
  match x.fraction?, (ofFraction false (Nat.pow 10 exponent.natAbs) 1).fraction? with
  | some (0, _), _ => x
  | some (num, den), some (num', den') =>
    if 0 ≤ exponent then ofFraction false (num * num') (den * den')
    else ofFraction false (num * den') (den * num')
  | _, _ => .infinite false

/-- A number with a sign. -/
def withSign (negative : Bool) : Binary64 → Binary64
  | finite _ mantissa exponent => finite negative mantissa exponent
  | infinite _ => infinite negative
  | notANumber => notANumber

/-- Read the parts of a numeral in steps. A quotient by more than `10 ^ 308` is taken in two, and
one by more than `10 ^ 616` vanishes. -/
def ofParts (parts : Numeral.Parts) : Binary64 :=
  let (digits, exponent) := kept parts
  let zero := finite parts.negative 0 (-1074)
  if digits = 0 ∨ exponent < -616 then zero
  else if 308 < exponent then .infinite parts.negative
  else
    let x := ofFraction false digits 1
    let x := if exponent < -308 then (x.scaled (-308)).scaled (exponent + 308)
      else x.scaled exponent
    x.withSign parts.negative

end CrudScaffold.Binary64
