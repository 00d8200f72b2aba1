import CrudScaffold.Toml

set_option autoImplicit false

/-! # TOML quotations

The four ways to quote a text: between double quotes with escapes, between single quotes as it is,
and both of them over several lines between tripled quotes. Each reader starts after the opening
quotes and answers with the quoted text and what follows the closing quotes. -/

namespace CrudScaffold.Toml

/-- Whether a character may stand in a quotation or in a comment as it is. -/
def isPlain (c : Char) : Bool := c == '\t' || (' ' ≤ c && c != '\x7f')

/-- The character that a letter after a backslash names. -/
def escaped? : Char → Option Char
  | 'b' => some '\x08'
  | 't' => some '\t'
  | 'n' => some '\n'
  | 'f' => some '\x0c'
  | 'r' => some '\r'
  | '"' => some '"'
  | '\\' => some '\\'
  | _ => none

/-- Put a character before the text that a reader has found. -/
def consText (c : Char) : Option (Text × Text) → Option (Text × Text)
  | some (s, rest) => some (c :: s, rest)
  | none => none

/-- A text between double quotes. -/
def basic : Text → Option (Text × Text)
  | '"' :: rest => some ([], rest)
  | '\\' :: 'u' :: a :: b :: c :: d :: rest =>
    match Text.codePoint? [a, b, c, d] with
    | some x => consText x (basic rest)
    | none => none
  | '\\' :: 'U' :: a :: b :: c :: d :: e :: f :: g :: h :: rest =>
    match Text.codePoint? [a, b, c, d, e, f, g, h] with
    | some x => consText x (basic rest)
    | none => none
  | '\\' :: c :: rest =>
    match escaped? c with
    | some x => consText x (basic rest)
    | none => none
  | c :: rest => if isPlain c ∧ c ≠ '\\' then consText c (basic rest) else none
  | [] => none

/-- A text between single quotes. -/
def literal : Text → Option (Text × Text)
  | [] => none
  | c :: rest =>
    if c = '\'' then some ([], rest)
    else if isPlain c then consText c (literal rest)
    else none

/-- What a reader of several lines does with blanks and line breaks. -/
inductive Folding where
  /-- It keeps them. -/
  | off
  /-- A backslash has come; the line must end before anything but blanks comes. -/
  | opened
  /-- It drops them until something else comes. -/
  | on
  deriving DecidableEq, Repr

/-- A text between tripled double quotes. A backslash at the end of a line drops the line break
and all blanks after it. Up to two quotes may stand before the closing ones. -/
def basicLines : Folding → Text → Option (Text × Text)
  | .opened, c :: rest =>
    if c = ' ' ∨ c = '\t' then basicLines .opened rest
    else if c = '\n' then basicLines .on rest
    else if c = '\r' ∧ rest.head? = some '\n' then basicLines .opened rest
    else none
  | _, '"' :: '"' :: '"' :: '"' :: '"' :: rest => some (['"', '"'], rest)
  | _, '"' :: '"' :: '"' :: '"' :: rest => some (['"'], rest)
  | _, '"' :: '"' :: '"' :: rest => some ([], rest)
  | _, '\\' :: 'u' :: a :: b :: c :: d :: rest =>
    match Text.codePoint? [a, b, c, d] with
    | some x => consText x (basicLines .off rest)
    | none => none
  | _, '\\' :: 'U' :: a :: b :: c :: d :: e :: f :: g :: h :: rest =>
    match Text.codePoint? [a, b, c, d, e, f, g, h] with
    | some x => consText x (basicLines .off rest)
    | none => none
  | _, '\\' :: c :: rest =>
    match escaped? c with
    | some x => consText x (basicLines .off rest)
    | none =>
      if c = ' ' ∨ c = '\t' then basicLines .opened rest
      else if c = '\n' then basicLines .on rest
      else if c = '\r' ∧ rest.head? = some '\n' then basicLines .opened rest
      else none
  | folding, c :: rest =>
    if folding = .on ∧ (c = ' ' ∨ c = '\t' ∨ c = '\n') then basicLines .on rest
    else if c = '\n' then consText c (basicLines .off rest)
    else if c = '\r' ∧ rest.head? = some '\n' then basicLines folding rest
    else if isPlain c ∧ c ≠ '\\' then consText c (basicLines .off rest)
    else none
  | _, [] => none

/-- A text between tripled single quotes. Up to two quotes may stand before the closing ones. -/
def literalLines : Text → Option (Text × Text)
  | '\'' :: '\'' :: '\'' :: '\'' :: '\'' :: rest => some (['\'', '\''], rest)
  | '\'' :: '\'' :: '\'' :: '\'' :: rest => some (['\''], rest)
  | '\'' :: '\'' :: '\'' :: rest => some ([], rest)
  | c :: rest =>
    if c = '\n' then consText c (literalLines rest)
    else if c = '\r' ∧ rest.head? = some '\n' then literalLines rest
    else if isPlain c then consText c (literalLines rest)
    else none
  | [] => none

/-- A text without a line break at its start. -/
def dropLineBreak : Text → Text
  | '\n' :: rest => rest
  | '\r' :: '\n' :: rest => rest
  | s => s

/-- A quoted text on one line. -/
def quotedKey? : Text → Option (Text × Text)
  | '"' :: rest => basic rest
  | '\'' :: rest => literal rest
  | _ => none

/-- A quoted text. -/
def quotation? : Text → Option (Text × Text)
  | '"' :: '"' :: '"' :: rest => basicLines .off (dropLineBreak rest)
  | '\'' :: '\'' :: '\'' :: rest => literalLines (dropLineBreak rest)
  | s => quotedKey? s

end CrudScaffold.Toml
