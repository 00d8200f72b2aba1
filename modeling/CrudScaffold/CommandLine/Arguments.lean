import CrudScaffold.Family
import CrudScaffold.Path

set_option autoImplicit false

/-! # Arguments

The command line is a family, the name of a model and the tokens of its fields. Options may stand
anywhere. One that is given both before and after the family counts as given after it; one that is
given twice on the same side is a mistake.

Arguments are first read one by one into *words*, then the words are taken in order. -/

namespace CrudScaffold.CommandLine

/-- The options of the command line. -/
structure Options where
  root? : Option Path := none
  config? : Option Path := none
  verbose : Bool := false
  deriving DecidableEq, Repr

/-- What the user asks for. -/
structure Invocation where
  options : Options
  family : Family
  model : Text
  tokens : List Text
  deriving DecidableEq, Repr

/-- What a command line comes to. -/
inductive Command where
  | generate (invocation : Invocation)
  | help
  | version
  | mistake
  deriving DecidableEq, Repr

/-! ## Words -/

/-- What one argument, with the value that it may take from the next one, says. -/
inductive Word where
  | plain (text : Text)
  /-- The option `--root`, and whether its value stands in the same argument. -/
  | root (attached : Bool) (dir : Path)
  /-- The option `--config`, and whether its value stands in the same argument. -/
  | config (attached : Bool) (file : Path)
  | verbose
  | help
  | version
  /-- The mark after which every argument is plain. -/
  | endOfOptions
  | mistake
  deriving DecidableEq, Repr

/-- Whether an argument is taken for an option or the end of options. A lone hyphen is not. -/
def looksLikeOption (arg : Text) : Bool := arg.head? == some '-' && arg != ['-']

/-- The words of some letters after one hyphen. -/
def shortWords (letters : Text) : List Word :=
  letters.map fun c =>
    if c = 'v' then .verbose else if c = 'h' then .help else if c = 'V' then .version else .mistake

/-- The word of an option without a value, after two hyphens. -/
def longWord (name : Text) : Word :=
  if name = ("verbose" : Text) then .verbose
  else if name = ("help" : Text) then .help
  else if name = ("version" : Text) then .version
  else .mistake

/-- The option that takes a value, by its name. -/
def valuedOption? (name : Text) : Option (Bool → Path → Word) :=
  if name = ("root" : Text) then some .root
  else if name = ("config" : Text) then some .config
  else none

/-- The words of a command line. A value stands after an equals sign or in the next argument, which
must not look like an option. -/
def words : List Text → List Word
  | [] => []
  | arg :: args =>
    match arg with
    | ['-', '-'] => .endOfOptions :: args.map .plain
    | '-' :: '-' :: option =>
      match Text.cut '=' option with
      | (name, some value) =>
        match valuedOption? name with
        | some option => option true ⟨value⟩ :: words args
        | none => .mistake :: words args
      | (name, none) =>
        match valuedOption? name with
        | none => longWord name :: words args
        | some option =>
          match args with
          | [] => [.mistake]
          | value :: args =>
            if looksLikeOption value then [.mistake] else option false ⟨value⟩ :: words args
    | '-' :: c :: letters => shortWords (c :: letters) ++ words args
    | text => .plain text :: words args

/-! ## Taking the words in order -/

/-- Take in an option, unless it is there already or its value is empty. -/
def Options.add? (options : Options) : Word → Option Options
  | .root _ dir =>
    if options.root?.isSome ∨ dir.text = [] then none else some { options with root? := some dir }
  | .config _ file =>
    if options.config?.isSome ∨ file.text = [] then none
    else some { options with config? := some file }
  | .verbose => if options.verbose then none else some { options with verbose := true }
  | _ => none

/-- Options of which the later ones go before the earlier ones. -/
def Options.orElse (later earlier : Options) : Options where
  root? := later.root? <|> earlier.root?
  config? := later.config? <|> earlier.config?
  verbose := later.verbose || earlier.verbose

/-- The command of a family, given the options before it, and the options and plain words, the last
one first, that have come after it. -/
def afterFamily (family : Family) (before : Options) :
    Options → List Text → List Word → Command
  | after, plain, [] =>
    match plain.reverse with
    | [] => .mistake
    | model :: tokens => .generate ⟨after.orElse before, family, model, tokens⟩
  | after, plain, word :: words =>
    match word with
    | .plain text => afterFamily family before after (text :: plain) words
    | .endOfOptions => afterFamily family before after plain words
    | .help => .help
    | .version | .mistake => .mistake
    | option =>
      match after.add? option with
      | some after => afterFamily family before after plain words
      | none => .mistake

/-- The command `help`, which may be asked about one other command. -/
def helpAbout : List Word → Command
  | [] => .help
  | [.plain topic] =>
    if (Family.ofName? topic).isSome ∨ topic = ("help" : Text) then .help else .mistake
  | _ => .mistake

/-- Whether an option is held against the ones before it only when the next option comes, or else
after all that follows: its value is an argument of its own. -/
def Word.isPending : Word → Bool
  | root attached _ | config attached _ => !attached
  | _ => false

/-- The command of some words, given the options that have come before them. An option that cannot
be taken in is a mistake, but help that is asked for before it is looked at comes first. -/
def beforeFamily : Options → List Word → Command
  | _, [] => .mistake
  | before, word :: words =>
    match word with
    | .plain text =>
      match Family.ofName? text with
      | some family => afterFamily family before {} [] words
      | none => if text = ("help" : Text) then helpAbout words else .mistake
    | .help => .help
    | .version => .version
    | .endOfOptions | .mistake => .mistake
    | option =>
      match before.add? option with
      | some before => beforeFamily before words
      | none =>
        match option.isPending, words with
        | true, .plain _ :: _ => if beforeFamily before words = .help then .help else .mistake
        | _, _ => .mistake

/-- The command of a command line. -/
def parse (args : List Text) : Command := beforeFamily {} (words args)

end CrudScaffold.CommandLine
