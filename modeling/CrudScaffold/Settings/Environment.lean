import CrudScaffold.Settings.Layer
import CrudScaffold.Text.Blank
import CrudScaffold.Toml.Quotation

set_option autoImplicit false

/-! # Settings in the environment

Variables whose names begin with `CRUDGEN_`, in any mixture of cases, are settings. The rest of
the name is the key, in which two underscores stand between the parts. The text of a variable is
read as a value: a boolean, a number, a text between double quotes, a single character
between single quotes, a list in brackets or a table in braces. A text that is none of these as a
whole is taken as it is. -/

namespace CrudScaffold.Environment

/-! ## Values -/

/-- Whether a character ends a value that is not quoted. -/
def isSeparator (c : Char) : Bool :=
  c == ',' || c == '\x7b' || c == '\x7d' || c == '[' || c == ']'

/-- The negative number that digits after a minus sign stand for. -/
def signed? : Text → Option Int
  | '-' :: digits =>
    if digits ≠ [] ∧ digits.all Char.isDigit ∧ Text.valueIn 10 digits ≤ Nat.pow 2 63 then
      some (-(Text.valueIn 10 digits : Int))
    else none
  | _ => none

/-- A text between double quotes, after the opening one. It is read as in TOML, but of what comes
before the first escape only so many bytes are kept as that has characters. -/
def quotation? (s : Text) : Option (Text × Text) :=
  let plain := s.takeWhile fun c => c != '"' && c != '\\'
  match s.drop plain.length with
  | '\\' :: _ => (Toml.basic s).map fun (text, rest) =>
    (Text.takeBytes plain.length plain ++ text.drop plain.length, rest)
  | _ => Toml.basic s

/-- What a word stands for: a number if it is one, else itself. -/
def ofWord (word : Text) : Scalar :=
  let real? := if '.' ∈ word then Numeral.read? word else none
  match real?, Text.unsigned? word, signed? word with
  | some x, _, _ => .real (Binary64.ofNumeral x)
  | none, some n, _ => .unsigned n
  | none, none, some n => .signed n
  | none, none, none => .text word

/-- A single value from the environment. -/
def scalar (value : Scalar) : Setting := .scalar .environment value

/-- The items of a list after its opening bracket, each read by `value?`. At most so many items
are read. A comma may follow the last item. -/
def items? (value? : Text → Option (Setting × Text)) : Nat → Text → Option (List Setting × Text)
  | _, ']' :: rest => some ([], rest)
  | 0, _ => none
  | count + 1, s =>
    match value? s with
    | none => none
    | some (item, ',' :: rest) =>
      (items? value? count rest).map fun (items, rest) => (item :: items, rest)
    | some (item, ']' :: rest) => some ([item], rest)
    | some _ => none

/-- A key of a table, quoted or of letters, digits, underscores and hyphens. -/
def key? : Text → Option (Text × Text)
  | '"' :: rest => quotation? rest
  | s =>
    let isBare (c : Char) : Bool := c.isAlphanum || c == '_' || c == '-'
    match s.takeWhile isBare with
    | [] => none
    | key => some (key, s.dropWhile isBare)

/-- The entries of a table after its opening brace, each value read by `value?`. At most so many
entries are read. A comma may follow the last entry, and the last of two equal keys counts. -/
def entries? (value? : Text → Option (Setting × Text)) :
    Nat → Text → Option (List (Text × Setting) × Text)
  | _, '\x7d' :: rest => some ([], rest)
  | 0, _ => none
  | count + 1, s =>
    match key? (s.dropWhile isAsciiBlank) with
    | none => none
    | some (key, rest) =>
      match List.dropWhile isAsciiBlank rest with
      | '=' :: rest =>
        match value? rest with
        | none => none
        | some (value, ',' :: rest) =>
          (entries? value? count rest).map fun (entries, rest) =>
            (if (entries.lookup key).isSome then entries else (key, value) :: entries, rest)
        | some (value, '\x7d' :: rest) => some ([(key, value)], rest)
        | some _ => none
      | _ => none

/-- A value with blanks around it, nested at most so deep, and what follows it. -/
def value? : (depth : Nat) → Text → Option (Setting × Text)
  | 0, _ => none
  | depth + 1, s =>
    let s := s.dropWhile isAsciiBlank
    let found : Option (Setting × Text) := match s with
      | '\x7b' :: rest => (entries? (value? depth) rest.length rest).map fun (entries, rest) =>
        (Setting.table .environment entries, rest)
      | '[' :: rest => (items? (value? depth) rest.length rest).map fun (items, rest) =>
        (Setting.list .environment items, rest)
      | '"' :: rest => (quotation? rest).map fun (s, rest) => (scalar (.text s), rest)
      | '\'' :: c :: '\'' :: rest => some (scalar (.text [c]), rest)
      | '\'' :: _ => none
      | s =>
        match Text.dropStart? "true" s, Text.dropStart? "false" s with
        | some rest, _ => some (scalar (.bool true), rest)
        | none, some rest => some (scalar (.bool false), rest)
        | none, none =>
          let word := Text.trim (s.takeWhile fun c => !isSeparator c)
          some (scalar (ofWord word), s.dropWhile fun c => !isSeparator c)
    found.map fun (value, rest) => (value, List.dropWhile isAsciiBlank rest)

/-- The setting that the text of a variable stands for. -/
def parseValue (s : Text) : Setting :=
  match value? (s.length + 1) s with
  | some (value, []) => value
  | _ => scalar (.text s)

/-! ## Names -/

/-- A text with a point for every two underscores, from left to right. -/
def pointed : Text → Text
  | '_' :: '_' :: s => '.' :: pointed s
  | c :: s => c :: pointed s
  | [] => []

/-- The path of keys that the name of a variable stands for, if it is the name of a setting. Blanks
at both ends of the name and of what follows the fixed beginning do not count. A key with an empty
part names nothing. -/
def keys? (name : Text) : Option (List Text) :=
  match Text.dropStart? "crudgen_" ((Text.trim name).map Text.asciiLower) with
  | none => none
  | some key =>
    let keys := Text.splitOn '.' (Text.trim (pointed key))
    if keys.any List.isEmpty then none else some keys

/-- The settings of an environment: the variables in their order, each laid over those before. -/
def layer (environment : List (Text × Text)) : Setting :=
  environment.foldl (fun settings (name, text) =>
    match keys? name with
    | none => settings
    | some keys => settings.overlay (Setting.nest .environment (parseValue text) keys))
    (.table .environment [])

end CrudScaffold.Environment
