import CrudScaffold.Text

set_option autoImplicit false

/-! # Blank characters

The characters with the Unicode property `White_Space`, and texts made of them. The zero-width
space U+200B, the byte order mark U+FEFF and the separators U+001C to U+001F are not among them. -/

namespace CrudScaffold

/-- The code points with the property `White_Space`, as closed ranges. -/
def blankRanges : List (Nat × Nat) :=
  [(0x0009, 0x000D), (0x0020, 0x0020), (0x0085, 0x0085), (0x00A0, 0x00A0), (0x1680, 0x1680),
    (0x2000, 0x200A), (0x2028, 0x2029), (0x202F, 0x202F), (0x205F, 0x205F), (0x3000, 0x3000)]

/-- Whether a character has the property `White_Space`. -/
def isBlank (c : Char) : Bool :=
  blankRanges.any fun range => range.1 ≤ c.toNat && c.toNat ≤ range.2

/-- Whether a text holds blank characters only. The empty text does. -/
def Text.isBlank (s : Text) : Bool := s.all CrudScaffold.isBlank

/-- A text without the blank characters at its two ends. -/
def Text.trim (s : Text) : Text :=
  ((s.dropWhile CrudScaffold.isBlank).reverse.dropWhile CrudScaffold.isBlank).reverse

/-- A blank of the configuration syntaxes: space, tab, line feed, form feed, carriage return. -/
def isAsciiBlank (c : Char) : Bool :=
  c == ' ' || c == '\t' || c == '\n' || c == '\x0c' || c == '\r'

end CrudScaffold
