import CrudScaffold.Decimal.Binary64

set_option autoImplicit false

/-! # Written floating-point numbers

How a floating-point number is laid out from its shortest digits. The two notations of the
program are records of one type. -/

namespace CrudScaffold

/-- The choices that a notation for floating-point numbers makes. -/
structure Notation64 where
  /-- Whether a number whose leading digit has this decimal exponent is written without exponent. -/
  positional : Int → Bool
  /-- What follows a number that has no fraction. -/
  wholeEnd : Text
  /-- The mark before an exponent that is not negative. -/
  exponentMark : Text

/-- Messages about settings write every number without exponent and whole numbers without point. -/
def Notation64.message : Notation64 := ⟨fun _ => true, "", "e"⟩

/-- Values in template contexts are written without exponent from `10 ^ -5` up to `10 ^ 16`, and
whole numbers end in `.0`. -/
def Notation64.value : Notation64 := ⟨fun e => -5 ≤ e && e < 16, ".0", "e+"⟩

namespace Notation64

/-- The number `0.d₁d₂…dₙ · 10 ^ (leading + 1)` with the digits `digits`. -/
def layOut (style : Notation64) (digits : Text) (leading : Int) : Text :=
  if style.positional leading then
    match leading with
    | .ofNat e =>
      if digits.length ≤ e + 1 then
        digits ++ List.replicate (e + 1 - digits.length) '0' ++ style.wholeEnd
      else digits.take (e + 1) ++ '.' :: digits.drop (e + 1)
    | .negSucc e => ("0." : Text) ++ List.replicate e '0' ++ digits
  else
    let fraction := if digits.length ≤ 1 then [] else '.' :: digits.drop 1
    let exponent := match leading with
      | .ofNat e => style.exponentMark ++ Text.ofNat e
      | .negSucc e => ("e-" : Text) ++ Text.ofNat (e + 1)
    digits.take 1 ++ fraction ++ exponent

/-- A floating-point number in a notation: the fewest digits that read back as the number. -/
def write (style : Notation64) : Binary64 → Text
  | .notANumber => "NaN"
  | .infinite negative => (if negative then ['-'] else []) ++ ("inf" : Text)
  | .finite negative mantissa exponent =>
    let sign : Text := if negative then ['-'] else []
    if mantissa = 0 then sign ++ '0' :: style.wholeEnd
    else
      let (digits, grid) := Binary64.shortest mantissa exponent
      let places := Text.ofNat digits
      let kept := (places.reverse.dropWhile (· == '0')).reverse
      sign ++ style.layOut kept (grid + places.length - 1)

end Notation64

end CrudScaffold
