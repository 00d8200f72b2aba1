import CrudScaffold.Text.AlphanumericTable

set_option autoImplicit false

/-! # Alphanumeric characters

The letters and numbers of all scripts. -/

namespace CrudScaffold

/-- Whether a character is a letter or a number. -/
def isAlphanumeric (c : Char) : Bool :=
  alphanumericRanges.any fun range => range.1 ≤ c.toNat && c.toNat ≤ range.2

end CrudScaffold
