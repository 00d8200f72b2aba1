import CrudScaffold.Toml.Quotation
import CrudScaffold.Toml.Word

set_option autoImplicit false

/-! # Reading TOML documents

`Toml.read?` reads a document line by line: entries, headers of tables and of elements of arrays of
tables, comments and blank lines. Arrays may run over lines; tables between braces may not. Values
and dotted keys are nested at most 79 deep. -/

namespace CrudScaffold.Toml

/-- How deep values may be nested. -/
def nestingLimit : Nat := 79

/-! ## Blanks and comments -/

/-- Whether a character is a blank within a line. -/
def isSpace (c : Char) : Bool := c == ' ' || c == '\t'

/-- A text without the comment that it begins with, if it does. -/
def dropComment : Text → Text
  | '#' :: rest => rest.dropWhile isPlain
  | s => s

/-- What follows the end of a line: blanks, an optional comment, and a line break or the end of
the document. -/
def endOfLine? (s : Text) : Option Text :=
  match dropComment (s.dropWhile isSpace) with
  | [] => some []
  | '\n' :: rest => some rest
  | '\r' :: '\n' :: rest => some rest
  | _ => none

/-- A text without blanks, line breaks and comments at its start. A comment that holds a character
that it must not hold ends there. -/
def dropBlankLines : (inComment : Bool) → Text → Text
  | _, [] => []
  | _, '\n' :: rest => dropBlankLines false rest
  | _, '\r' :: '\n' :: rest => dropBlankLines false rest
  | true, c :: rest => if isPlain c then dropBlankLines true rest else c :: rest
  | false, c :: rest =>
    if isSpace c then dropBlankLines false rest
    else if c = '#' then dropBlankLines true rest
    else c :: rest

/-! ## Keys -/

/-- Whether a character may stand in a key without quotes. -/
def isBareKeyChar (c : Char) : Bool := c.isAlphanum || c == '_' || c == '-'

/-- One part of a dotted key. -/
def keyPart? (s : Text) : Option (Text × Text) :=
  match quotedKey? s with
  | some result => some result
  | none =>
    match s.takeWhile isBareKeyChar with
    | [] => none
    | key => some (key, s.dropWhile isBareKeyChar)

/-- A dotted key of at most so many parts: its path, its last part, and what follows it and the
blanks after it. -/
def key? : (parts : Nat) → Text → Option (List Text × Text × Text)
  | 0, _ => none
  | parts + 1, s =>
    match keyPart? (s.dropWhile isSpace) with
    | none => none
    | some (part, rest) =>
      match rest.dropWhile isSpace with
      | '.' :: rest =>
        match key? parts rest with
        | some (path, last, rest) => some (part :: path, last, rest)
        | none => none
      | rest => some ([], part, rest)

/-! ## Values -/

/-- The items of an array after its opening bracket, each read by `value?`. At most so many items
are read. -/
def items? (value? : Text → Option (Toml × Text)) : Nat → Text → Option (List Toml × Text)
  | 0, _ => none
  | count + 1, s =>
    match dropBlankLines false s with
    | ']' :: rest => some ([], rest)
    | s =>
      match value? s with
      | none => none
      | some (item, rest) =>
        match dropBlankLines false rest with
        | ']' :: rest => some ([item], rest)
        | ',' :: rest =>
          match items? value? count rest with
          | some (items, rest) => some (item :: items, rest)
          | none => none
        | _ => none

/-- An entry: a dotted key, an equals sign and a value, which is read by `value?`. -/
def keyValue? (value? : Text → Option (Toml × Text)) (s : Text) :
    Option ((List Text × Text × Toml) × Text) :=
  match key? nestingLimit s with
  | some (path, key, '=' :: rest) =>
    match value? (rest.dropWhile isSpace) with
    | some (value, rest) => some ((path, key, value), rest)
    | none => none
  | _ => none

/-- The entries after an opening brace, at least one and at most so many. -/
def entries? (value? : Text → Option (Toml × Text)) :
    Nat → Text → Option (List (List Text × Text × Toml) × Text)
  | 0, _ => none
  | count + 1, s =>
    match keyValue? value? s with
    | none => none
    | some (entry, rest) =>
      match rest.dropWhile isSpace with
      | '\x7d' :: rest => some ([entry], rest)
      | ',' :: rest =>
        match entries? value? count rest with
        | some (entries, rest) => some (entry :: entries, rest)
        | none => none
      | _ => none

/-- A value that is nested at most so deep, and what follows it. -/
def value? : (depth : Nat) → Text → Option (Toml × Text)
  | _, '"' :: s => (quotation? ('"' :: s)).map fun (quoted, rest) => (.text quoted, rest)
  | _, '\'' :: s => (quotation? ('\'' :: s)).map fun (quoted, rest) => (.text quoted, rest)
  | 0, s => readWord? s
  | depth + 1, '[' :: s =>
    (items? (value? depth) (s.length + 1) s).map fun (items, rest) => (.array items, rest)
  | depth + 1, '\x7b' :: s =>
    match s.dropWhile isSpace with
    | '\x7d' :: rest => some (.table [], rest)
    | s =>
      match entries? (value? depth) (s.length + 1) s with
      | none => none
      | some (entries, rest) => (ofInline? [] entries).map (·, rest)
  | _ + 1, s => readWord? s

/-! ## Documents -/

/-- A line that says something, without its end. -/
def line? : Text → Option (Line × Text)
  | '[' :: '[' :: s =>
    match key? nestingLimit s with
    | some (path, key, ']' :: ']' :: rest) => some (.element path key, rest)
    | _ => none
  | '[' :: s =>
    match key? nestingLimit s with
    | some (path, key, ']' :: rest) => some (.header path key, rest)
    | _ => none
  | s => (keyValue? (value? nestingLimit) s).map fun ((path, key, value), rest) =>
    (.entry path key value, rest)

/-- The lines of a document that say something. At most so many lines are read. -/
def lines? : Nat → Text → Option (List Line)
  | 0, _ => none
  | count + 1, s =>
    match dropBlankLines false s with
    | [] => some []
    | s =>
      match line? s with
      | none => none
      | some (line, rest) =>
        match endOfLine? rest with
        | none => none
        | some rest => (lines? count rest).map (line :: ·)

/-- The entries of a document, if its text is well formed. A byte order mark at the start is
passed over. -/
def read? (s : Text) : Option (List (Text × Toml)) :=
  let s := match s with
    | '\ufeff' :: s => s
    | s => s
  (lines? (s.length + 1) s).bind ofLines?

end CrudScaffold.Toml
