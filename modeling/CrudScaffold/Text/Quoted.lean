import CrudScaffold.Text
import CrudScaffold.Text.EscapeTable

set_option autoImplicit false

/-! # Quoted text

Text between double quotes, in which a double quote, a backslash and every character without a
shape of its own is written as an escape. -/

namespace CrudScaffold

/-- Whether quoted text writes a character by its code point. -/
def isEscaped (c : Char) : Bool :=
  escapedRanges.any fun range => range.1 ≤ c.toNat && c.toNat ≤ range.2

/-- A character as it stands in quoted text. -/
def escape (c : Char) : Text :=
  if c = '\x00' then "\\0"
  else if c = '\t' then "\\t"
  else if c = '\n' then "\\n"
  else if c = '\r' then "\\r"
  else if c = '\\' then "\\\\"
  else if c = '"' then "\\\""
  else if isEscaped c then ("\\u\x7b" : Text) ++ Nat.toDigits 16 c.toNat ++ ("\x7d" : Text)
  else [c]

/-- A text between double quotes. -/
def Text.quoted (s : Text) : Text := '"' :: s.flatMap escape ++ ['"']

end CrudScaffold
