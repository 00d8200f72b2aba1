import CrudScaffold.CommandLine.Run

set_option autoImplicit false

/-! # The program

The outer layer: the disk of the system, the environment, and the output channels. What is done
with them is decided by `CrudScaffold.CommandLine.run`. -/

namespace CrudScaffold

/-- The number of an error of the system, where it has one of those that are told apart, and its
text. -/
def systemError : IO.Error → UInt32 × String
  | .noFileOrDirectory _ code text => (code, text)
  | .noSuchThing _ code text => (code, text)
  | .alreadyExists _ code text => (code, text)
  | .inappropriateType _ code text => (code, text)
  | .invalidArgument _ code text => (code, text)
  | .otherError code text => (code, text)
  | error => (0, toString error)

/-- An error of the system as an error of a disk. -/
def diskError (error : IO.Error) : DiskError :=
  let (code, text) := systemError error
  if code = 2 then .notFound
  else if code = 17 then .alreadyExists
  else if code = 20 then .notDirectory
  else if code = 21 then .isDirectory
  else if code = 36 then .nameTooLong
  else if code = 40 then .tooManyLinks
  else .other text

/-- Do something with a path, unless it holds a character that no path of the system can hold. -/
def onDisk (p : Path) (action : String → IO Unit) : IO (Option DiskError) := do
  if '\x00' ∈ p.text then return some .nulInPath
  match ← (action (String.ofList p.text)).toBaseIO with
  | .ok _ => return none
  | .error error => return some (diskError error)

/-- The disk of the system, seen from the current directory. A path leads somewhere if it can be
resolved, and to a directory if it can with a dot after it. Renaming something to its own name
changes nothing, and fails if nothing stands there. -/
def systemDisk : Disk IO where
  exists? p := return (← onDisk p fun s => discard (IO.FS.realPath s)) == none
  isDirectory p := return (← onDisk p fun s => discard (IO.FS.realPath (s ++ "/."))) == none
  isOccupied p := do
    let leads := (← onDisk p fun s => discard (IO.FS.realPath s)) == none
    if leads then return true
    return (← onDisk p fun s => IO.FS.rename s s) == none
  read? p := do
    if '\x00' ∈ p.text then return none
    match ← (IO.FS.readFile (String.ofList p.text)).toBaseIO with
    | .ok content => return some content.toList
    | .error _ => return none
  makeDirectory p := onDisk p fun s => IO.FS.createDir s
  writeFile p content := onDisk p fun s => IO.FS.writeFile s (String.ofList content)

/-- The variables of the environment of this process. -/
def systemVariables : IO (List (Text × Text)) := do
  match ← (IO.FS.readFile "/proc/self/environ").toBaseIO with
  | .error _ => return []
  | .ok content =>
    return (Text.splitOn '\x00' content.toList).filterMap fun entry =>
      match Text.cut '=' entry with
      | (name, some value) => some (name, value)
      | (_, none) => none

end CrudScaffold

open CrudScaffold in
/-- Run the program and tell the user what it says. -/
def main (args : List String) : IO UInt32 := do
  let cwd : Path := ⟨(← IO.currentDir).toString.toList⟩
  let terminal ← (← IO.getStdout).isTty
  let transcript ←
    CommandLine.run systemDisk cwd (← systemVariables) (args.map String.toList) terminal
  let time := Text.ofNat (← IO.monoMsNow)
  IO.print (String.ofList transcript.output)
  IO.eprint (String.ofList (transcript.diagnostics time))
  return transcript.exitCode.toUInt32
