import CrudScaffold.Path

set_option autoImplicit false

/-! # File trees

The state of a disk: a tree of directories, regular files and symbolic links. A node is known by
its *place*, the names that lead to it from the root directory. That every node but the root stands
in a directory is part of the type.

Main statement: `FileTree.node?_put` says what putting a node somewhere does to every place. -/

namespace CrudScaffold

/-- The place of a node: its name, the name of the directory that it stands in, and so on up to the
root directory, whose place is `[]`. -/
abbrev Place := List Text

/-- What can stand at a place. -/
inductive Node where
  | directory
  | file (content : Text)
  | link (target : Path)
  deriving DecidableEq, Repr

/-- What stands at a place, given what stands below the root. The root is a directory. -/
def nodeAt? (entries : List (Place × Node)) : Place → Option Node
  | [] => some .directory
  | name :: dir => entries.lookup (name :: dir)

/-- A disk: what stands at which place below the root. -/
structure FileTree where
  entries : List (Place × Node)
  /-- Whatever stands at a place stands in a directory. -/
  closed : ∀ name dir,
    (nodeAt? entries (name :: dir)).isSome → nodeAt? entries dir = some .directory

namespace FileTree

/-- The disk that holds the root directory and nothing else. -/
def empty : FileTree := ⟨[], by simp [nodeAt?]⟩

instance : Inhabited FileTree := ⟨empty⟩

/-- What stands at a place. -/
def node? (t : FileTree) (place : Place) : Option Node := nodeAt? t.entries place

@[simp] theorem node?_root (t : FileTree) : t.node? [] = some .directory := rfl

/-! ## Putting a node at a place -/

theorem nodeAt?_cons_filter (entries : List (Place × Node)) (name : Text) (dir place : Place)
    (n : Node) :
    nodeAt? ((name :: dir, n) :: entries.filter fun e => e.1 != name :: dir) place
      = if place = name :: dir then some n else nodeAt? entries place := by
  cases place with
  | nil => simp [nodeAt?]
  | cons x rest =>
    simp only [nodeAt?, List.lookup_cons]
    by_cases h : x :: rest = name :: dir
    · simp [h]
    · have hb : ((x :: rest) == (name :: dir)) = false := by simpa using h
      simp only [hb, if_neg h]
      induction entries with
      | nil => rfl
      | cons e es ih =>
        obtain ⟨p, m⟩ := e
        by_cases hp : p = name :: dir
        · subst hp
          simp [List.lookup_cons, hb, ih]
        · have hpb : (p != name :: dir) = true := by simpa using hp
          simp only [List.filter_cons, hpb, if_true, List.lookup_cons, ih]

/-- Put a node into a directory under a name. Nothing happens if there is no such directory or if
the name belongs to a directory already. -/
def put (t : FileTree) (name : Text) (dir : Place) (n : Node) : FileTree :=
  if h : t.node? dir = some .directory ∧ t.node? (name :: dir) ≠ some .directory then
    { entries := (name :: dir, n) :: t.entries.filter fun e => e.1 != name :: dir
      closed := by
        intro x place hx
        rw [nodeAt?_cons_filter] at hx ⊢
        split at hx
        · next e =>
          obtain ⟨rfl, rfl⟩ := List.cons.inj e
          rw [if_neg (by simp)]
          exact h.1
        · split
          · next e =>
            subst e
            exact absurd (t.closed x _ hx) h.2
          · exact t.closed x place hx }
  else t

theorem node?_put (t : FileTree) (name : Text) (dir place : Place) (n : Node)
    (hdir : t.node? dir = some .directory) (hname : t.node? (name :: dir) ≠ some .directory) :
    (t.put name dir n).node? place = if place = name :: dir then some n else t.node? place := by
  rw [put, dif_pos ⟨hdir, hname⟩]
  exact nodeAt?_cons_filter t.entries name dir place n

/-! ## Removing a node -/

/-- Whether a place is the given one or lies below it. -/
def isWithin (top place : Place) : Bool := top.isSuffixOf place

theorem isWithin_cons (top : Place) (name : Text) (dir : Place) (h : isWithin top dir = true) :
    isWithin top (name :: dir) = true := by
  simp only [isWithin, List.isSuffixOf_iff_suffix] at *
  exact h.trans (List.suffix_cons name dir)

theorem nodeAt?_filter (entries : List (Place × Node)) (top place : Place) (h : place ≠ []) :
    nodeAt? (entries.filter fun e => !isWithin top e.1) place
      = if isWithin top place then none else nodeAt? entries place := by
  cases place with
  | nil => exact absurd rfl h
  | cons x rest =>
    simp only [nodeAt?]
    induction entries with
    | nil => simp
    | cons e es ih =>
      obtain ⟨p, m⟩ := e
      by_cases hp : isWithin top p = true
      · by_cases hx : (x :: rest) = p
        · subst hx; simp [hp, ih]
        · have hxb : ((x :: rest) == p) = false := by simpa using hx
          simp [hp, List.lookup_cons, hxb, ih]
      · by_cases hx : (x :: rest) = p
        · subst hx; simp [hp]
        · have hxb : ((x :: rest) == p) = false := by simpa using hx
          simp [hp, List.lookup_cons, hxb, ih]

/-- Remove the node at a place and everything below it. The root directory stays. -/
def remove (t : FileTree) (top : Place) : FileTree where
  entries := t.entries.filter fun e => !isWithin top e.1
  closed := by
    intro name dir h
    rw [nodeAt?_filter _ _ _ (by simp)] at h
    split at h
    · simp at h
    · next hw =>
      cases dir with
      | nil => rfl
      | cons x rest =>
        rw [nodeAt?_filter _ _ _ (by simp), if_neg]
        · exact t.closed name (x :: rest) h
        · exact fun hd => hw (isWithin_cons top name (x :: rest) hd)

end FileTree

end CrudScaffold
