import CrudScaffold.FileTree.Walk

set_option autoImplicit false

/-! # Disks

What the program asks of a disk. Whatever it does, it does through these operations, on a disk of
any kind: the file tree of this library, whose changes can be reasoned about, or a real one.

On top of them stands the making of a directory with all directories above it that are missing. -/

namespace CrudScaffold

/-- A disk on which paths are looked up from a fixed current directory. An operation that changes
the disk answers with the error that it failed with, if it failed. -/
structure Disk (m : Type → Type) where
  /-- Whether a path leads to anything, with links followed. -/
  exists? : Path → m Bool
  /-- Whether a path leads to a directory, with links followed. -/
  isDirectory : Path → m Bool
  /-- Whether anything stands at a path, be it a dangling link. -/
  isOccupied : Path → m Bool
  /-- The content of the file that a path leads to. -/
  read? : Path → m (Option Text)
  /-- Make one directory. -/
  makeDirectory : Path → m (Option DiskError)
  /-- Write a file. -/
  writeFile : Path → Text → m (Option DiskError)

namespace Disk

variable {m : Type → Type} [Monad m]

/-- Accept a failure to make a directory if there is a directory all the same. -/
def orExisting (disk : Disk m) (p : Path) : Option DiskError → m (Option DiskError)
  | none => pure none
  | some error => do
    if ← disk.isDirectory p then pure none else pure (some error)

/-- Make the first of some paths, each of which is the parent of the one before it, a directory.
If its parent is missing, the parent is made first, and so on up the list. The empty path stands
for the current directory and is never made. -/
def makeDirectories (disk : Disk m) : List Path → m (Option DiskError)
  | [] => pure none
  | p :: parents =>
    if p = Path.empty then pure none
    else do
      match ← disk.makeDirectory p with
      | some .notFound =>
        match ← makeDirectories disk parents with
        | none => disk.orExisting p (← disk.makeDirectory p)
        | some error => pure (some error)
      | result => disk.orExisting p result

/-- The first paths of a list that lead to nothing. -/
def takeMissing (disk : Disk m) : List Path → m (List Path)
  | [] => pure []
  | p :: ps => do
    if ← disk.exists? p then pure [] else return p :: (← takeMissing disk ps)

end Disk

/-- Carry out a change of a file tree, which stays as it is if the change fails. -/
def FileTree.commit (change : FileTree → Except DiskError FileTree) :
    StateM FileTree (Option DiskError) := fun t =>
  match change t with
  | .ok t' => (none, t')
  | .error error => (some error, t)

/-- A file tree as a disk, seen from the directory `cwd`. -/
def FileTree.disk (cwd : Place) : Disk (StateM FileTree) where
  exists? p := fun t => (t.exists? cwd p, t)
  isDirectory p := fun t => (t.isDirectory cwd p, t)
  isOccupied p := fun t => (t.isOccupied cwd p, t)
  read? p := fun t => (t.read? cwd p, t)
  makeDirectory p := FileTree.commit fun t => t.makeDirectory cwd p
  writeFile p content := FileTree.commit fun t => t.writeFile cwd p content

end CrudScaffold
