import CrudScaffold.Text
import CrudScaffold.Text.CaseTable
import CrudScaffold.Text.CasedTable

set_option autoImplicit false

/-! # Upper and lower case

Case mapping by the tables of Unicode: the image of a character may be several characters (`ß`
becomes `SS`), and the digraph `ǆ` becomes the upper-case `Ǆ`, not the title-case `ǅ`. The one
mapping that depends on the characters around it is that of capital sigma, which becomes `ς` at the
end of a word and `σ` elsewhere. -/

namespace CrudScaffold

/-- The image of a code point under the first run that covers it. -/
def runImage? (n : Nat) : List (Nat × Nat × Nat × Nat) → Option Nat
  | [] => none
  | (first, last, step, image) :: runs =>
    if first ≤ n ∧ n ≤ last ∧ (n - first) % step = 0 then some (image + (n - first))
    else runImage? n runs

/-- The image of a character under a case mapping that is given by its two tables. -/
def mapCase (expansions : List (Nat × List Nat)) (runs : List (Nat × Nat × Nat × Nat))
    (c : Char) : Text :=
  match expansions.lookup c.toNat with
  | some codes => codes.map Char.ofNat
  | none =>
    match runImage? c.toNat runs with
    | some code => [Char.ofNat code]
    | none => [c]

/-- The upper-case form of a character. -/
def upperCase (c : Char) : Text := mapCase upperExpansions upperRuns c

/-- The lower-case form of a character by itself. -/
def lowerCase (c : Char) : Text := mapCase lowerExpansions lowerRuns c

/-- Whether a character is in one of some ranges of code points. -/
def isInRanges (ranges : List (Nat × Nat)) (c : Char) : Bool :=
  ranges.any fun range => range.1 ≤ c.toNat && c.toNat ≤ range.2

namespace Text

/-- Whether the first character of a text that is not passed over is a letter with a case. -/
def beginsCased (s : Text) : Bool :=
  (s.dropWhile (isInRanges caseIgnorableRanges)).head?.any (isInRanges casedRanges)

/-- The lower-case form of a character between two texts, of which the one before it is given
backwards. -/
def lowerBetween (before : Text) (c : Char) (after : Text) : Text :=
  if c == '\u03A3' && beginsCased before && !beginsCased after then ['\u03C2'] else lowerCase c

/-- The lower-case form of a text that stands after another one, which is given backwards. -/
def lowerAfter (before : Text) : Text → Text
  | [] => []
  | c :: cs => lowerBetween before c cs ++ lowerAfter (c :: before) cs

/-- A text in lower case. -/
def lower (s : Text) : Text := lowerAfter [] s

/-- A text with its first character in upper case and the rest unchanged. -/
def capitalize : Text → Text
  | [] => []
  | c :: cs => upperCase c ++ cs

end Text

end CrudScaffold
