import CrudScaffold.CommandLine.Arguments
import CrudScaffold.CommandLine.Log

set_option autoImplicit false

/-! # Running the program

A run reads the arguments and the environment, generates the files of a resource, and tells the
user about it in a transcript. -/

namespace CrudScaffold.CommandLine

/-! ## Styles -/

/-- How a piece of text is set off from the rest on a terminal. -/
inductive Style where
  | bold
  | dim
  | red
  | green
  | yellow
  | cyan
  deriving DecidableEq, Repr

/-- The number of a style in a control sequence. -/
def Style.code : Style → Text
  | bold => "1"
  | dim => "2"
  | red => "31"
  | green => "32"
  | yellow => "33"
  | cyan => "36"

/-- A text in some styles, if styles are used at all. -/
def paint (styled : Bool) (styles : List Style) (s : Text) : Text :=
  if styled then
    (styles.flatMap fun style => ("\x1b[" : Text) ++ style.code ++ ['m']) ++ s ++
      ("\x1b[0m" : Text)
  else s

/-- Whether the output can and may show styles: it goes to a terminal of a known kind that is not a
dumb one, and the environment does not speak against them. -/
def showsStyles (environment : List (Text × Text)) (terminal : Bool) : Bool :=
  terminal && (environment.lookup ("NO_COLOR" : Text)).isNone &&
    (environment.lookup ("TERM" : Text)).any (· != ("dumb" : Text)) &&
    (environment.lookup ("CLICOLOR" : Text)).all (· != ['0'])

/-- Whether styles are used: where the output shows them, and everywhere if the environment forces
them. -/
def usesStyles (environment : List (Text × Text)) (terminal : Bool) : Bool :=
  showsStyles environment terminal ||
    (environment.lookup ("CLICOLOR_FORCE" : Text)).any (· != ['0'])

/-! ## Transcripts -/

/-- What the user is told. -/
structure Transcript where
  exitCode : Nat
  output : Text := []
  /-- The lines of the log, without their times and as plain text. -/
  log : List Text := []
  /-- The message that a failed run ends with. -/
  failure? : Option Text := none
  deriving DecidableEq, Repr

/-- The text of the diagnostic output with a plain log, the same time before each of its lines. -/
def Transcript.diagnostics (t : Transcript) (time : Text) : Text :=
  (t.log.flatMap fun line => time ++ ' ' :: line ++ ['\n']) ++
    match t.failure? with
    | none => []
    | some message => message ++ ['\n']

/-- The name and the version of the program. -/
def versionText : Text := "crudgen 0.1.0\n"

/-- How to use the program. -/
def helpText : Text :=
  ("Usage: crudgen [--root DIR] [--config FILE] [-v] <model|upload|user> NAME [FIELD]...\n\n" :
    Text) ++
  ("Field format: name[:type[:required[:default]]]\n" : Text)

/-- The line that names what is generated, with an empty line before it. -/
def heading (styled : Bool) (i : Invocation) : Text :=
  '\n' :: paint styled [.cyan, .bold] "Scaffolding" ++ ' ' :: paint styled [.cyan] i.family.name ++
    ' ' :: paint styled [.cyan, .bold] "for" ++
    ' ' :: paint styled [.green, .bold] i.model ++ ['\n']

/-- The lines that say what was made. -/
def account (styled : Bool) (files : List PlannedFile) (report : Report) : Text :=
  (report.madeDirectories.flatMap fun dir =>
    ("  " : Text) ++ paint styled [.bold] "📁" ++ (" Directory '" : Text) ++
      paint styled [.dim] dir.text ++ ("' created\n" : Text)) ++
  (files.flatMap fun file =>
    ("  " : Text) ++ paint styled [.green] "✓" ++ ' ' :: file.description ++
      (" created in '" : Text) ++ paint styled [.dim] file.path.text ++ ("'\n" : Text))

/-- The lines that say what is left to do. -/
def advice (styled : Bool) (steps : List Text) : Text :=
  '\n' :: paint styled [.cyan, .bold] "Next steps:" ++ ['\n'] ++
    (steps.zipIdx.flatMap fun (step, index) =>
      ("  " : Text) ++ Text.ofNat (index + 1) ++ (". " : Text) ++ paint styled [.yellow] step ++
        ['\n'])

/-- The message that a run ends with: what was being done, if that needs to be said, what failed,
and why. -/
def complaint (styled : Bool) (doing? : Option Text) (failure : Failure) : Text :=
  let marker : Text := if failure.isCollision then "❌ Collision:" else "❌ Error:"
  paint styled [.red, .bold] marker ++ ' ' ::
    List.intercalate (": " : Text)
      (doing?.toList ++ [failure.message] ++ failure.cause?.toList)

/-! ## Runs -/

variable {m : Type → Type} [Monad m]

/-- Generate the files of an invocation. -/
def generate (disk : Disk m) (cwd : Path) (environment : List (Text × Text)) (terminal : Bool)
    (i : Invocation) : m Transcript := do
  let styled := usesStyles environment terminal
  let filter := filterOf environment i.options.verbose
  let failed (output : Text) (events : List Event) (doing? : Option Text) (failure : Failure) :
      Transcript :=
    { exitCode := 1, output, log := (events.filter (shows filter)).map eventLine
      failure? := some (complaint styled doing? failure) }
  match ← Settings.load disk cwd (i.options.root?.getD cwd) i.options.config? environment with
  | .error error =>
    pure (failed [] [] (some "Failed to load configuration") (.settings error))
  | .ok settings =>
    let start := heading styled i
    match Resource.ofInput i.model i.tokens i.family settings with
    | .error failure =>
      pure (failed start [] (some "Failed to create scaffold generator") failure)
    | .ok resource =>
      match ← resource.generate disk with
      | (events, .error failure) =>
        let doing? : Option Text := match failure with
          | .render _ => some "Failed to generate scaffold files"
          | _ => none
        pure (failed start events doing? failure)
      | (events, .ok (files, report)) =>
        pure
          { exitCode := 0
            output := start ++ account styled files report ++
              advice styled (i.family.nextSteps i.model)
            log := (events.filter (shows filter)).map eventLine }

/-- Run the program with some arguments, in the current directory `cwd`, which is absolute. Whether the
output goes to a `terminal` decides about styles only. -/
def run (disk : Disk m) (cwd : Path) (environment : List (Text × Text)) (args : List Text)
    (terminal : Bool := false) : m Transcript :=
  match parse args with
  | .generate invocation => generate disk cwd environment terminal invocation
  | .help => pure { exitCode := 0, output := helpText }
  | .version => pure { exitCode := 0, output := versionText }
  | .mistake => pure { exitCode := 2, failure? := some helpText }

end CrudScaffold.CommandLine
