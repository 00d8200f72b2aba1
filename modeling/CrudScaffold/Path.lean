import CrudScaffold.Text

set_option autoImplicit false

/-! # Paths

A path is kept and shown exactly as it was written; nothing in it is normalised. What it means is
read off its *pieces*, the texts between its slashes, and off its *components*: the pieces without
the empty ones and without the dots after the first piece.

The parent of a path, its ancestors and the rest of it below another path are again texts cut
from the path, so a doubled slash inside the part that is kept stays doubled. -/

namespace CrudScaffold

/-- A path, as the text that it was written as. -/
structure Path where
  text : Text
  deriving DecidableEq, Repr

/-- One step of a path. -/
inductive Component where
  /-- The leading slash of an absolute path. -/
  | root
  /-- A leading dot. -/
  | here
  /-- Two dots. -/
  | up
  /-- The name of an entry of a directory. -/
  | name (text : Text)
  deriving DecidableEq, Repr

/-- The component that a piece stands for. -/
def Component.ofPiece (piece : Text) : Component := if piece = ['.', '.'] then .up else .name piece

namespace Path

/-- The empty path, which names nothing. -/
def empty : Path := ⟨[]⟩

/-- Whether a path begins with a slash. -/
def isAbsolute (p : Path) : Bool := p.text.head? == some '/'

/-- The texts between the slashes of a path. The first piece of an absolute path is empty. -/
def pieces (p : Path) : List Text := Text.splitOn '/' p.text

/-- Whether a piece after the first one is passed over: it is empty or a dot. -/
def isSkipped (piece : Text) : Bool := piece == [] || piece == ['.']

/-- The component of the first piece of a path, if it has one. -/
def firstComponent? (p : Path) : Option Component :=
  if p.isAbsolute then some .root
  else match p.pieces.head? with
    | none => none
    | some first =>
      if first = [] then none
      else if first = ['.'] then some .here
      else some (Component.ofPiece first)

/-- The components of a path, from its start. -/
def components (p : Path) : List Component :=
  p.firstComponent?.toList ++
    ((p.pieces.tail.filter fun piece => !isSkipped piece).map Component.ofPiece)

/-- The path `a` followed by `b`: `b` itself if it is absolute, and with a slash between them
unless `a` is empty or ends in one. -/
def join (a b : Path) : Path :=
  if b.isAbsolute then b
  else if a.text = [] ∨ a.text.getLast? = some '/' then ⟨a.text ++ b.text⟩
  else ⟨a.text ++ '/' :: b.text⟩

theorem pieces_join (a b : Path) (hb : b.isAbsolute = false) (ha : a.text ≠ [])
    (hend : a.text.getLast? ≠ some '/') : (a.join b).pieces = a.pieces ++ b.pieces := by
  have hne : ¬(a.text = [] ∨ a.text.getLast? = some '/') := by simp [ha, hend]
  rw [join, if_neg (by simp [hb]), if_neg hne]
  exact Text.splitOn_append '/' a.text b.text

theorem join_of_isAbsolute (a b : Path) (hb : b.isAbsolute = true) : a.join b = b := by
  rw [join, if_pos hb]

/-- The path with the given first piece and later pieces; a lone empty first piece is the root. -/
def ofPieces (first : Text) (later : List Text) : Path :=
  if first = [] ∧ later = [] then ⟨['/']⟩ else ⟨['/'].intercalate (first :: later)⟩

/-- The paths above the one whose pieces after `first` are, from the last one on, `later`. Each is
the text of the path up to a component, without what follows it. -/
def above (isAbsolute : Bool) (first : Text) : List Text → List Path
  | [] => if isAbsolute ∨ first = [] then [] else [empty]
  | piece :: later =>
    if isSkipped piece then above isAbsolute first later
    else ofPieces first (later.dropWhile isSkipped).reverse :: above isAbsolute first later

/-- The paths above a path, the nearest first. The last one is `/` or the empty path. -/
def parents (p : Path) : List Path :=
  above p.isAbsolute (p.pieces.headD []) p.pieces.tail.reverse

/-- The path above a path. A path without components, and `/`, have none. -/
def parent? (p : Path) : Option Path := p.parents.head?

/-- A path and the paths above it, the nearest first. -/
def ancestors (p : Path) : List Path := p :: p.parents

/-- The pieces that are left after the first `count` pieces that are not skipped. The first piece
that is left is not skipped. -/
def dropPieces : Nat → List Text → List Text
  | _, [] => []
  | count, piece :: later =>
    if isSkipped piece then dropPieces count later
    else match count with
      | 0 => piece :: later
      | count + 1 => dropPieces count later

/-- The rest of a path below `base`, if the components of `base` are its first ones. -/
def below? (base p : Path) : Option Path :=
  if base.components.isPrefixOf p.components then
    match base.components.length with
    | 0 => some p
    | count + 1 => some ⟨['/'].intercalate (dropPieces count p.pieces.tail)⟩
  else none

end Path

end CrudScaffold
