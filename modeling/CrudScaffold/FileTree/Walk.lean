import CrudScaffold.FileTree

set_option autoImplicit false

/-! # Walking a path

What a path leads to on a disk, seen from a current directory. Symbolic links are followed on the
way, at most forty of them; names have at most 255 bytes and whole paths fewer than 4096. A walk
either lands on a node, or finds a directory with a vacant name, or fails.

What is to be done at the end of a path decides about its last step: whether a link there is
followed and what a slash after it means (`Purpose`). -/

namespace CrudScaffold

/-- Why an operation on the disk fails. -/
inductive DiskError where
  | notFound
  | alreadyExists
  | notDirectory
  | isDirectory
  | nameTooLong
  | tooManyLinks
  | nulInPath
  /-- Something that cannot happen on a file tree, such as a lack of space or of permission. -/
  | other (text : Text)
  deriving DecidableEq, Repr

/-- The text of a disk error. -/
def DiskError.message : DiskError → Text
  | notFound => "No such file or directory (os error 2)"
  | alreadyExists => "File exists (os error 17)"
  | notDirectory => "Not a directory (os error 20)"
  | isDirectory => "Is a directory (os error 21)"
  | nameTooLong => "File name too long (os error 36)"
  | tooManyLinks => "Too many levels of symbolic links (os error 40)"
  | nulInPath => "file name contained an unexpected NUL byte"
  | other text => text

/-- What is to be done with the thing that a path leads to. -/
inductive Purpose where
  /-- Look at it. A link at the end is followed. -/
  | follow
  /-- Look at what stands there itself. A link at the end is not followed, unless a slash comes
  after it. -/
  | keep
  /-- Open it for writing, as a new or an existing file. A link at the end is followed, and a name
  with a slash after it cannot be opened. -/
  | write
  /-- Make a directory of it. A link at the end is not followed, and a slash after the name is
  ignored. -/
  | make
  deriving DecidableEq, Repr

/-- The names of a path: its pieces that are not empty. -/
def Path.names (p : Path) : List Text := p.pieces.filter (· != [])

/-- The steps of a walk along a path: its names and, if the path ends in a slash after a name, an
empty step, which asks for a directory. -/
def Path.steps (p : Path) : List Text :=
  if p.names ≠ [] ∧ p.text.getLast? = some '/' then p.names ++ [[]] else p.names

/-- Where a walk ends. -/
inductive Landing where
  | node (place : Place) (node : Node)
  | vacant (name : Text) (dir : Place)
  | failed (error : DiskError)
  deriving DecidableEq, Repr

/-- What one step of a walk leads to. -/
inductive Advance where
  | go (place : Place)
  /-- A link to be followed. -/
  | link (target : Path)
  | stop (landing : Landing)
  deriving DecidableEq, Repr

/-- A walk up to its end or to the first link that it has to follow. -/
inductive Stretch where
  | landed (landing : Landing)
  | link (dir : Place) (target : Path) (rest : List Text)
  deriving DecidableEq, Repr

namespace FileTree

/-- Go down from a directory to a name in it, with the rest of the steps to come. -/
def enter (t : FileTree) (purpose : Purpose) (dir : Place) (name : Text) (rest : List Text) :
    Advance :=
  if purpose = .write ∧ rest = [[]] then .stop (.failed .isDirectory)
  else if 255 < name.byteSize then .stop (.failed .nameTooLong)
  else match t.node? (name :: dir) with
    | none => .stop (if rest = [] then .vacant name dir else .failed .notFound)
    | some (.link target) =>
      if rest = [] ∧ (purpose = .keep ∨ purpose = .make) then
        .stop (.node (name :: dir) (.link target))
      else .link target
    | some _ => .go (name :: dir)

/-- Take one step of a walk from a place, with the rest of the steps to come. -/
def advance (t : FileTree) (purpose : Purpose) (dir : Place) (step : Text) (rest : List Text) :
    Advance :=
  match t.node? dir with
  | none => .stop (.failed .notFound)
  | some .directory =>
    if step = [] ∨ step = ['.'] then .go dir
    else if step = ['.', '.'] then .go dir.tail
    else t.enter purpose dir step rest
  | some _ => .stop (.failed .notDirectory)

/-- Take the steps of a walk, starting at a place, up to the first link to follow. -/
def stretch (t : FileTree) (purpose : Purpose) : Place → List Text → Stretch
  | place, [] =>
    match t.node? place with
    | none => .landed (.failed .notFound)
    | some node => .landed (.node place node)
  | dir, step :: rest =>
    match t.advance purpose dir step rest with
    | .go place => stretch t purpose place rest
    | .link target => .link dir target rest
    | .stop landing => .landed landing

/-- Where a walk starts: at the root for an absolute path, else at the given directory. -/
def start (dir : Place) (p : Path) : Place := if p.isAbsolute then [] else dir

/-- Walk to the end, following at most `links` links. -/
def walk (t : FileTree) (purpose : Purpose) : (links : Nat) → Place → List Text → Landing
  | 0, dir, steps =>
    match t.stretch purpose dir steps with
    | .landed landing => landing
    | .link .. => .failed .tooManyLinks
  | links + 1, dir, steps =>
    match t.stretch purpose dir steps with
    | .landed landing => landing
    | .link dir target rest => walk t purpose links (start dir target) (target.steps ++ rest)

/-- What a path leads to, seen from the directory `cwd`. -/
def locate (t : FileTree) (cwd : Place) (purpose : Purpose) (p : Path) : Landing :=
  if '\x00' ∈ p.text then .failed .nulInPath
  else if p.text = [] then .failed .notFound
  else if 4096 ≤ p.text.byteSize then .failed .nameTooLong
  else t.walk purpose 40 (start cwd p) (if purpose = .make then p.names else p.steps)

/-! ## Looking -/

/-- Whether a path leads to a node, with links followed. -/
def exists? (t : FileTree) (cwd : Place) (p : Path) : Bool :=
  match t.locate cwd .follow p with
  | .node .. => true
  | _ => false

/-- Whether a path leads to a directory, with links followed. -/
def isDirectory (t : FileTree) (cwd : Place) (p : Path) : Bool :=
  match t.locate cwd .follow p with
  | .node _ .directory => true
  | _ => false

/-- Whether anything stands at a path: a file, a directory or a link, dangling or not. -/
def isOccupied (t : FileTree) (cwd : Place) (p : Path) : Bool :=
  match t.locate cwd .keep p with
  | .node .. => true
  | _ => false

/-- The content of the file that a path leads to. -/
def read? (t : FileTree) (cwd : Place) (p : Path) : Option Text :=
  match t.locate cwd .follow p with
  | .node _ (.file content) => some content
  | _ => none

/-! ## Changing -/

/-- Make one directory. -/
def makeDirectory (t : FileTree) (cwd : Place) (p : Path) : Except DiskError FileTree :=
  match t.locate cwd .make p with
  | .node .. => .error .alreadyExists
  | .vacant name dir => .ok (t.put name dir .directory)
  | .failed error => .error error

/-- Write a file: an existing one gets the new content, a vacant name becomes a new file. -/
def writeFile (t : FileTree) (cwd : Place) (p : Path) (content : Text) :
    Except DiskError FileTree :=
  match t.locate cwd .write p with
  | .node (name :: dir) (.file _) => .ok (t.put name dir (.file content))
  | .node .. => .error .isDirectory
  | .vacant name dir => .ok (t.put name dir (.file content))
  | .failed error => .error error

/-- Make a symbolic link. -/
def makeLink (t : FileTree) (cwd : Place) (p target : Path) : Except DiskError FileTree :=
  match t.locate cwd .keep p with
  | .node .. => .error .alreadyExists
  | .vacant name dir => .ok (t.put name dir (.link target))
  | .failed error => .error error

/-- Remove what stands at a path, a directory with everything in it. -/
def removeAt (t : FileTree) (cwd : Place) (p : Path) : Except DiskError FileTree :=
  match t.locate cwd .keep p with
  | .node place _ => .ok (t.remove place)
  | .vacant .. => .error .notFound
  | .failed error => .error error

end FileTree

/-- The absolute path of a place. -/
def Place.path (place : Place) : Path := ⟨'/' :: ['/'].intercalate place.reverse⟩

end CrudScaffold
