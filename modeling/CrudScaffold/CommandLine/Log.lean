import CrudScaffold.Decimal.Numeral
import CrudScaffold.Generation
import CrudScaffold.Text.Pattern

set_option autoImplicit false

/-! # The log

Events are logged at the level of debugging. Which of them are shown is decided by a filter: the
value of `RUST_LOG`, or a default if that is missing or cannot be read. A filter is a list of
directives, each with a level for the events whose target begins in a certain way; the most
specific directive that an event meets decides. -/

namespace CrudScaffold.CommandLine

/-! ## Lines -/

/-- The part of the program that an event comes from. -/
def eventTarget : Event → Text
  | .refused .. => "crudgen::scaffold::guard"
  | _ => "crudgen::scaffold::generator"

/-- The names of the values that an event comes with. -/
def eventFields : Event → List Text
  | .planned .. => ["message", "kind", "path"]
  | .refused .. => ["message", "path", "entity", "kind"]
  | .madeDirectory _ => ["message", "dir"]
  | .wroteFile _ => ["message", "path"]

/-- The line of an event in the log, after its time. -/
def eventLine : Event → Text
  | .planned artifact path =>
    ("DEBUG rendered artifact kind=" : Text) ++ artifact.label ++ (" path=" : Text) ++ path.text
  | .refused path model label =>
    ("DEBUG refusing to overwrite existing file path=" : Text) ++ path.text ++
      (" entity=" : Text) ++ model.quoted ++ (" kind=" : Text) ++ label.quoted
  | .madeDirectory path => ("DEBUG created directory dir=" : Text) ++ path.text
  | .wroteFile path => ("DEBUG wrote artifact path=" : Text) ++ path.text

/-! ## Filters -/

/-- Levels of the log. A level includes those before it. -/
inductive LogLevel where
  | off
  | error
  | warn
  | info
  | debug
  | trace
  deriving DecidableEq, Repr

namespace LogLevel

/-- All levels, in order. -/
def all : List LogLevel := [off, error, warn, info, debug, trace]

/-- The name of a level. -/
def name : LogLevel → Text
  | off => "off"
  | error => "error"
  | warn => "warn"
  | info => "info"
  | debug => "debug"
  | trace => "trace"

/-- Whether a level includes debugging. -/
def showsDebug : LogLevel → Bool
  | debug | trace => true
  | _ => false

/-- Read a level: its number or its name, in any mixture of cases. -/
def read? (s : Text) : Option LogLevel :=
  match Text.unsigned? s with
  | some n => all[n]?
  | none => all.find? fun level => level.name.eqIgnoringAsciiCase s

end LogLevel

/-- A directive of a filter. -/
structure Directive where
  /-- How the targets begin that it is about. -/
  target? : Option Text := none
  /-- The value that an event must come with. -/
  field? : Option Text := none
  /-- Whether it is about what happens inside spans only, as one is that names a span or says what
  a value must be. The program has no spans. -/
  inSpan : Bool := false
  level : LogLevel := .trace
  deriving DecidableEq, Repr

namespace Directive

/-! ### Reading

Where the parts of a directive begin and end is found in its text without the blanks at both ends,
in bytes. The parts are then cut at these places out of the text with the blanks. In the readers
below `whole` is that text, and the last argument is what follows byte `i` of the other one. -/

/-- The level from byte `i` on. Without one the level is tracing. -/
def levelFrom? (whole : Text) (i : Nat) : Option LogLevel :=
  match Text.dropBytes? i whole with
  | some [] => some .trace
  | some level => LogLevel.read? level
  | none => none

/-- What may follow the brackets of a directive: an equals sign and a level. -/
def withLevel? (whole : Text) (d : Directive) (i : Nat) : Text → Option Directive
  | [] => some d
  | '=' :: _ => (levelFrom? whole (i + 1)).map fun level => { d with level }
  | _ => none

/-- Whether a text may say what a value must be: a number or a pattern. -/
def isMatcher (s : Text) : Bool :=
  let word := (Text.takeSign s).2
  (Numeral.read? s).isSome || Pattern.isValid s ||
    (["inf", "infinity", "nan"] : List Text).any word.eqIgnoringAsciiCase

/-- A directive with what its braces hold: the name of a value and perhaps what it must be, after
an equals sign. What follows a second one does not count. -/
def withField? (d : Directive) (field : Text) : Option Directive :=
  match Text.splitOn '=' field with
  | [[]] => none
  | _ :: value :: _ => if isMatcher value then some { d with inSpan := true } else none
  | _ => some { d with field? := some field }

/-- Read the brackets of a directive, after the opening one: the name of a span, a value in braces,
or both. -/
def withSpan? (whole : Text) (d : Directive) (i : Nat) (s : Text) : Option Directive := do
  let name := s.takeWhile fun c => c != ']' && c != '\x7b'
  let j := i + Text.byteSize name
  match s.drop name.length with
  | ']' :: rest => withLevel? whole { d with inSpan := true } (j + 1) rest
  | '\x7b' :: rest =>
    let field := rest.takeWhile (· != '\x7d')
    let k := j + 1 + Text.byteSize field
    let d ← withField? { d with inSpan := !name.isEmpty } (← Text.slice? (j + 1) k whole)
    match rest.drop field.length with
    | '\x7d' :: ']' :: rest => withLevel? whole d (k + 2) rest
    | _ => none
  | _ => none

/-- Whether a directive may begin with a character. -/
def isStart (c : Char) : Bool := c == '-' || c == ':' || c == '_' || isAlphanumeric c

/-- Read a directive: a level, or the beginning of a target, brackets or both with an optional
level. -/
def read? (whole : Text) : Option Directive := do
  let s := Text.trim whole
  match s with
  | [] => none
  | '[' :: rest => withSpan? whole {} 1 rest
  | c :: _ =>
    if !isStart c then none
    else
      let name := s.takeWhile fun c => c != '=' && c != '['
      let i := Text.byteSize name
      match s.drop name.length with
      | [] =>
        match LogLevel.read? whole with
        | some level => some { level }
        | none => some { target? := some whole }
      | '[' :: rest => withSpan? whole { target? := ← Text.slice? 0 i whole } (i + 1) rest
      | rest => withLevel? whole { target? := ← Text.slice? 0 i whole } i rest

/-! ### Choosing -/

/-- Whether a directive is about an event. -/
def isAbout (d : Directive) (e : Event) : Bool :=
  !d.inSpan && (d.target?.all fun target => target.isPrefixOf (eventTarget e)) &&
    d.field?.all fun field => (eventFields e).contains field

/-- Whether the first directive goes behind the second: its target is shorter, or as long and it
asks for no value or for one whose name is not after that of the other one. -/
def isBehind (d e : Directive) : Bool :=
  let size (d : Directive) : Nat := d.target?.elim 0 fun target => target.length + 1
  let isFieldBehind : Bool := match d.field?, e.field? with
    | none, _ => true
    | some _, none => false
    | some x, some y => !List.lex y x fun c d => c.toNat < d.toNat
  size d < size e || (size d == size e && isFieldBehind)

end Directive

/-- Read a filter: directives between commas. -/
def readFilter? (s : Text) : Option (List Directive) :=
  ((Text.splitOn ',' s).filter (· != [])).mapM Directive.read?

/-- Whether a filter shows an event. -/
def shows (filter : List Directive) (e : Event) : Bool :=
  let best := (filter.filter (·.isAbout e)).foldl (fun (best : Option Directive) d =>
    match best with
    | none => some d
    | some b => if b.isBehind d then some d else some b) none
  best.any fun d => d.level.showsDebug

/-- The filter without `RUST_LOG`: warnings, and everything of the program itself if the user asks
for it. -/
def defaultFilter (verbose : Bool) : List Directive :=
  if verbose then [{ level := .warn }, { target? := some "crudgen", level := .debug }]
  else [{ level := .warn }]

/-- The filter of an environment. -/
def filterOf (environment : List (Text × Text)) (verbose : Bool) : List Directive :=
  ((environment.lookup ("RUST_LOG" : Text)).bind readFilter?).getD (defaultFilter verbose)

end CrudScaffold.CommandLine
