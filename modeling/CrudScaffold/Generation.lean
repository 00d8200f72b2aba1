import CrudScaffold.Resource

set_option autoImplicit false

/-! # Generation

Writing planned files to a disk. Nothing that exists is ever written over: every target is looked
at before anything is changed. Then all directories are made, then all files are written. What was
done before a failure stays done. -/

namespace CrudScaffold

/-- Something that happens during a generation and is worth a line in the log. -/
inductive Event where
  | planned (artifact : Artifact) (path : Path)
  | refused (path : Path) (model label : Text)
  | madeDirectory (path : Path)
  | wroteFile (path : Path)
  deriving DecidableEq, Repr

/-- What a generation has brought about, with paths relative to the root of the project. -/
structure Report where
  /-- The directories that were made, each after the one that it is in. -/
  madeDirectories : List Path
  /-- The files that were written, in order. -/
  writtenFiles : List Path
  deriving DecidableEq, Repr

/-- A file and where it goes. -/
structure Target where
  path : Path
  content : Text
  /-- The word for what the file is. -/
  label : Text
  deriving DecidableEq, Repr

/-- Where a planned file goes, given the root of the project. -/
def PlannedFile.target (root : Path) (file : PlannedFile) : Target :=
  ⟨root.join file.path, file.content, file.artifact.label⟩

namespace Generation

variable {m : Type → Type} [Monad m]

/-- The collision at the first path of a list at which anything stands, if there is one. The paths
come with the words for what is to go there. -/
def collision? (disk : Disk m) (model : Text) : List (Path × Text) → m (Option Failure)
  | [] => pure none
  | (path, label) :: rest => do
    if ← disk.isOccupied path then pure (some (.collision path model label))
    else collision? disk model rest

/-- Make the directories of some paths as far as they are missing. The answer is the paths that
led to nothing before, each after the one that it is in, and the failure that ended it. -/
def makeParents (disk : Disk m) : List Path → m (List Path × Option Failure)
  | [] => pure ([], none)
  | path :: rest => do
    match path.parent? with
    | none => makeParents disk rest
    | some dir =>
      if ← disk.exists? dir then makeParents disk rest
      else
        let missing ← disk.takeMissing dir.ancestors
        match ← disk.makeDirectories dir.ancestors with
        | some error => pure ([], some (.disk dir error))
        | none =>
          let (made, failure?) ← makeParents disk rest
          pure (missing.reverse ++ made, failure?)

/-- Write some files in order. The answer is the paths written to and the failure that ended it. -/
def writeFiles (disk : Disk m) : List (Path × Text) → m (List Path × Option Failure)
  | [] => pure ([], none)
  | (path, content) :: rest => do
    match ← disk.writeFile path content with
    | some error => pure ([], some (.disk path error))
    | none =>
      let (written, failure?) ← writeFiles disk rest
      pure (path :: written, failure?)

/-- Write some targets for a model. The answer is the directories made, the paths written to and
the failure that ended it. -/
def writeTargets (disk : Disk m) (model : Text) (targets : List Target) :
    m (List Path × List Path × Option Failure) := do
  match ← collision? disk model (targets.map fun t => (t.path, t.label)) with
  | some failure => pure ([], [], some failure)
  | none =>
    match ← makeParents disk (targets.map Target.path) with
    | (made, some failure) => pure (made, [], some failure)
    | (made, none) =>
      let (written, failure?) ← writeFiles disk (targets.map fun t => (t.path, t.content))
      pure (made, written, failure?)

/-- The events of a generation, from what it did and how it ended. -/
def events (made written : List Path) (failure? : Option Failure) : List Event :=
  (match failure? with
    | some (.collision path model label) => [.refused path model label]
    | _ => []) ++
  made.map .madeDirectory ++ written.map .wroteFile

end Generation

namespace Resource

variable {m : Type → Type} [Monad m]

/-- Write files for a resource. The answer is what happened and either the failure that ended it or
the report. -/
def write (disk : Disk m) (r : Resource) (files : List PlannedFile) :
    m (List Event × Except Failure Report) := do
  let root := r.settings.root
  let (made, written, failure?) ←
    Generation.writeTargets disk r.model (files.map (PlannedFile.target root))
  let events := Generation.events made written failure?
  match failure? with
  | some failure => pure (events, .error failure)
  | none =>
    let report : Report :=
      { madeDirectories := made.map fun dir => (root.below? dir).getD dir
        writtenFiles := files.map PlannedFile.path }
    pure (events, .ok report)

/-- Plan the files of a resource and write them. -/
def generate (disk : Disk m) (r : Resource) :
    m (List Event × Except Failure (List PlannedFile × Report)) := do
  match r.plan with
  | .error failure => pure ([], .error failure)
  | .ok files =>
    let planned := files.map fun file => Event.planned file.artifact file.path
    let (events, result) ← r.write disk files
    pure (planned ++ events, result.map (files, ·))

end Resource

end CrudScaffold
