import CrudScaffold.Toml

set_option autoImplicit false

/-! # TOML words

The values that are written as one word: booleans, numbers, dates and times. -/

namespace CrudScaffold.Toml

/-! ## Numbers -/

/-- The digits of a number without the underscores between them, if they are digits of the given
kind and every underscore stands between two of them. -/
def groupedDigits? (isDigit : Char → Bool) (s : Text) : Option Text :=
  let groups := Text.splitOn '_' s
  if groups.all fun group => group != [] && group.all isDigit then some groups.flatten else none

/-- An integer, if it fits into 64 bits with a sign. -/
def integer? (value : Int) : Option Toml :=
  if -(Nat.pow 2 63 : Int) ≤ value ∧ value < Nat.pow 2 63 then some (.integer value) else none

/-- The digits of a decimal integer, which has no leading zeros. -/
def decimalDigits? (s : Text) : Option Text :=
  match s with
  | '0' :: _ :: _ => none
  | _ => groupedDigits? Char.isDigit s

/-- An integer: decimal with an optional sign, or with the mark of another base. -/
def readInteger? : Text → Option Toml
  | '0' :: 'x' :: s => (groupedDigits? (isDigitOf 16) s).bind fun d => integer? (Text.valueIn 16 d)
  | '0' :: 'o' :: s => (groupedDigits? (isDigitOf 8) s).bind fun d => integer? (Text.valueIn 8 d)
  | '0' :: 'b' :: s => (groupedDigits? (isDigitOf 2) s).bind fun d => integer? (Text.valueIn 2 d)
  | s =>
    let (negative, s) := Text.takeSign s
    (decimalDigits? s).bind fun d =>
      integer? (if negative then -(Text.valueIn 10 d : Int) else (Text.valueIn 10 d : Int))

/-- A floating-point number: decimal digits with a fraction, an exponent or both, or a named one.
A number that is too large is refused; one that is too far below zero is minus infinity. -/
def readReal? (s : Text) : Option Toml :=
  let (negative, s) := Text.takeSign s
  if s = ("inf" : Text) then some (.real (.infinite negative))
  else if s = ("nan" : Text) then some (.real .notANumber)
  else
    let isMark (c : Char) : Bool := c == 'e' || c == 'E'
    let (mantissa, exponent) := (s.takeWhile (!isMark ·), s.dropWhile (!isMark ·))
    let (whole, fraction?) := Text.cut '.' mantissa
    if fraction? = none ∧ exponent = [] then none
    else do
      let whole ← decimalDigits? whole
      let fraction ← match fraction? with
        | none => some []
        | some s => groupedDigits? Char.isDigit s
      let exponent ← match exponent with
        | [] => some 0
        | _ :: s =>
          let (negative, s) := Text.takeSign s
          (groupedDigits? Char.isDigit s).map fun d =>
            if negative then -(Text.valueIn 10 d : Int) else (Text.valueIn 10 d : Int)
      let digits := Text.valueIn 10 (whole ++ fraction)
      match Binary64.ofNumeral ⟨negative, digits, exponent - fraction.length⟩ with
      | .infinite false => none
      | value => some (.real value)

/-! ## Dates and times -/

/-- A number of two digits in a range. -/
def isTwoDigits (low high : Nat) : Text → Bool
  | [a, b] =>
    a.isDigit && b.isDigit && low ≤ Text.valueIn 10 [a, b] && Text.valueIn 10 [a, b] ≤ high
  | _ => false

/-- The number of days of a month. -/
def daysOf (year month : Nat) : Nat :=
  if month = 2 then
    if year % 4 = 0 ∧ (year % 100 ≠ 0 ∨ year % 400 = 0) then 29 else 28
  else if month = 4 ∨ month = 6 ∨ month = 9 ∨ month = 11 then 30
  else 31

/-- A date `year-month-day`. -/
def isDate (s : Text) : Bool :=
  match Text.splitOn '-' s with
  | [year, month, day] =>
    year.length == 4 && year.all Char.isDigit && isTwoDigits 1 12 month &&
      isTwoDigits 1 (daysOf (Text.valueIn 10 year) (Text.valueIn 10 month)) day
  | _ => false

/-- A time `hour:minute:second`, with an optional fraction of a second. -/
def isTime (s : Text) : Bool :=
  match Text.splitOn ':' s with
  | [hour, minute, second] =>
    let (second, fraction?) := Text.cut '.' second
    isTwoDigits 0 23 hour && isTwoDigits 0 59 minute && isTwoDigits 0 60 second &&
      fraction?.all fun fraction => fraction != [] && fraction.all Char.isDigit
  | _ => false

/-- The difference to universal time: `Z`, or a sign with hours and minutes. -/
def isOffset : Text → Bool
  | [c] => c == 'Z' || c == 'z'
  | c :: s =>
    (c == '+' || c == '-') &&
      match Text.splitOn ':' s with
      | [hour, minute] => isTwoDigits 0 23 hour && isTwoDigits 0 59 minute
      | _ => false
  | [] => false

/-- A time, with an optional offset. -/
def isOffsetTime (s : Text) : Bool :=
  let isOffsetStart (c : Char) : Bool := c == 'Z' || c == 'z' || c == '+' || c == '-'
  let (time, offset) := (s.takeWhile (!isOffsetStart ·), s.dropWhile (!isOffsetStart ·))
  isTime time && (offset == [] || isOffset offset)

/-- A date with a time after a `T`. -/
def isDateTime (s : Text) : Bool :=
  isDate (s.take 10) &&
    match s.drop 10 with
    | c :: time => (c == 'T' || c == 't') && isOffsetTime time
    | [] => false

/-! ## Words -/

/-- Whether a character can be part of a word. -/
def isWordChar (c : Char) : Bool :=
  c.isAlphanum || c == '+' || c == '-' || c == '_' || c == '.' || c == ':'

/-- The value that a word stands for. -/
def ofWord? (word : Text) : Option Toml :=
  if word = ("true" : Text) then some (.bool true)
  else if word = ("false" : Text) then some (.bool false)
  else if isDate word ∨ isTime word ∨ isDateTime word then some .date
  else (readInteger? word).orElse fun _ => readReal? word

/-- A value that is written as one word, or as a date and a time with a space between them. -/
def readWord? (s : Text) : Option (Toml × Text) :=
  let word := s.takeWhile isWordChar
  let rest := s.dropWhile isWordChar
  match rest with
  | ' ' :: next =>
    if isDate word ∧ isOffsetTime (next.takeWhile isWordChar) then
      some (.date, next.dropWhile isWordChar)
    else (ofWord? word).map (·, rest)
  | _ => (ofWord? word).map (·, rest)

end CrudScaffold.Toml
