import CrudScaffold.Decimal.Numeral

set_option autoImplicit false

/-! # Binary floating-point numbers of 64 bits

The nearest such number to a numeral, and the shortest decimal that reads back as a given one.
Both are computed in exact arithmetic on natural numbers. -/

namespace CrudScaffold

/-- A floating-point number of 64 bits. The finite ones are `± mantissa · 2 ^ exponent` with
`mantissa < 2 ^ 53` and `-1074 ≤ exponent ≤ 971`. -/
inductive Binary64 where
  | finite (negative : Bool) (mantissa : Nat) (exponent : Int)
  | infinite (negative : Bool)
  | notANumber
  deriving DecidableEq, Repr

namespace Binary64

/-! ## Rounding -/

/-- The natural number nearest to `num / den`; a tie goes to the even neighbour. -/
def roundDiv (num den : Nat) : Nat :=
  let quotient := num / den
  let remainder := num % den
  if 2 * remainder < den ∨ (2 * remainder = den ∧ quotient % 2 = 0) then quotient
  else quotient + 1

/-- The fraction `num / den` divided by `2 ^ exponent`, as a fraction. -/
def unscale (num den : Nat) (exponent : Int) : Nat × Nat :=
  match exponent with
  | .ofNat e => (num, den * Nat.pow 2 e)
  | .negSucc e => (num * Nat.pow 2 (e + 1), den)

/-- The floating-point number nearest to the positive fraction `num / den`. -/
def ofFraction (negative : Bool) (num den : Nat) : Binary64 :=
  let magnitude : Int := (Nat.log2 num : Int) - Nat.log2 den
  let low := max (magnitude - 53) (-1074)
  let (n, d) := unscale num den low
  let exponent := if n / d < Nat.pow 2 53 then low else low + 1
  let (n, d) := unscale num den exponent
  let mantissa := roundDiv n d
  let (mantissa, exponent) :=
    if mantissa < Nat.pow 2 53 then (mantissa, exponent) else (mantissa / 2, exponent + 1)
  if exponent ≤ 971 then .finite negative mantissa exponent else .infinite negative

/-- The floating-point number nearest to a numeral. Numerals with more than 400 places before the
point overflow and those with 400 zeros after it vanish, without computing the power of ten. -/
def ofNumeral (x : Numeral) : Binary64 :=
  let places : Int := (Nat.toDigits 10 x.digits).length + x.exponent
  if x.digits = 0 ∨ places < -400 then .finite x.negative 0 (-1074)
  else if 400 < places then .infinite x.negative
  else match x.exponent with
    | .ofNat e => ofFraction x.negative (x.digits * Nat.pow 10 e) 1
    | .negSucc e => ofFraction x.negative x.digits (Nat.pow 10 (e + 1))

/-! ## The shortest decimal -/

/-- Compare `digits · 10 ^ exponent` with `num / den`. -/
def compareScaled (digits : Nat) (exponent : Int) (num den : Nat) : Ordering :=
  match exponent with
  | .ofNat e => compare (digits * Nat.pow 10 e * den) num
  | .negSucc e => compare (digits * den) (num * Nat.pow 10 (e + 1))

/-- The decimal exponent of the leading digit of the positive fraction `num / den`. -/
def leadingExponent (num den : Nat) : Int :=
  if den ≤ num then (Nat.toDigits 10 (num / den)).length - 1
  else
    let places : Nat := (Nat.toDigits 10 (den / num)).length
    if den = num * Nat.pow 10 (places - 1) then -((places : Int) - 1) else -(places : Int)

/-- The whole part of `num / den` divided by `10 ^ exponent`. -/
def floorScaled (num den : Nat) (exponent : Int) : Nat :=
  match exponent with
  | .ofNat e => num / (den * Nat.pow 10 e)
  | .negSucc e => num * Nat.pow 10 (e + 1) / den

/-- The shortest decimal `digits · 10 ^ exponent` in the interval of numbers that round to
`mantissa · 2 ^ exponent` (its ends count if the mantissa is even), and of those the nearest.
For each count of digits only the two neighbours of the number on that grid can be nearest. -/
def shortest (mantissa : Nat) (exponent : Int) : Nat × Int :=
  let width := if mantissa = Nat.pow 2 52 ∧ -1074 < exponent then 1 else 2
  let (twos, den) : Nat × Nat := match exponent with
    | .ofNat e => (Nat.pow 2 e, 4)
    | .negSucc e => (1, 4 * Nat.pow 2 (e + 1))
  let below := (4 * mantissa - width) * twos
  let value := 4 * mantissa * twos
  let above := (4 * mantissa + 2) * twos
  let leading := leadingExponent value den
  let inside (digits : Nat) (grid : Int) : Bool :=
    let down := compareScaled digits grid below den
    let up := compareScaled digits grid above den
    if mantissa % 2 = 0 then down != .lt && up != .gt else down == .gt && up == .lt
  let onGrid (count : Nat) : Option (Nat × Int) :=
    let grid := leading - count
    let digits := floorScaled value den grid
    match inside digits grid, inside (digits + 1) grid with
    | true, true =>
      -- the midpoint of the two neighbours has the digits `2 · digits + 1` on half the grid
      let nearest := match compareScaled (2 * digits + 1) grid (2 * value) den with
        | .lt => digits + 1
        | .eq => if digits % 2 = 0 then digits else digits + 1
        | .gt => digits
      some (nearest, grid)
    | true, false => some (digits, grid)
    | false, true => some (digits + 1, grid)
    | false, false => none
  ((List.range 17).findSome? onGrid).getD (floorScaled value den (leading - 16), leading - 16)

end Binary64

end CrudScaffold
