import CrudScaffold.Text.Alphanumeric
import CrudScaffold.Text.Blank
import CrudScaffold.Text.Digits

set_option autoImplicit false

/-! # Patterns

Which texts are regular expressions. A pattern is read under a *mode* that its flags change, from
where they stand to the end of their group. No tables of properties are at hand: whatever needs one
is refused, such as the digits of all scripts, and so is what could match half a character.

Numbers of repetitions and properties need braces. A closing brace cannot occur in a pattern, so
both are refused from their opening brace on. -/

namespace CrudScaffold.Pattern

/-! ## Modes -/

/-- How a part of a pattern is read. -/
structure Mode where
  /-- The case of letters does not count. -/
  caseless : Bool := false
  /-- Characters are matched, not bytes. -/
  unicode : Bool := true
  /-- Blanks and comments count for nothing. -/
  spaced : Bool := false
  deriving DecidableEq, Repr

namespace Mode

/-- A mode with a flag turned on or off. The flags that do not bear on validity change nothing. -/
def set (mode : Mode) (flag : Char) (on : Bool) : Mode :=
  if flag = 'i' then { mode with caseless := on }
  else if flag = 'u' then { mode with unicode := on }
  else if flag = 'x' then { mode with spaced := on }
  else mode

/-- Whether letters are compared up to the case of all scripts, which needs a table. -/
def foldsCase (mode : Mode) : Bool := mode.caseless && mode.unicode

/-- What follows blanks and comments, which a line break ends. -/
def dropBlanks : (inComment : Bool) → Text → Text
  | _, [] => []
  | true, c :: s => dropBlanks (c != '\n') s
  | false, c :: s =>
    if isBlank c then dropBlanks false s
    else if c = '#' then dropBlanks true s
    else c :: s

/-- A text from the first place on that counts. -/
def skip (mode : Mode) (s : Text) : Text := if mode.spaced then dropBlanks false s else s

end Mode

/-! ## Characters -/

/-- What one character or one escape is. -/
inductive Atom where
  /-- A character, perhaps named by the two digits of a byte. -/
  | char (c : Char) (byte : Bool)
  /-- A set of characters. -/
  | set
  /-- A condition on a place. -/
  | place
  deriving DecidableEq, Repr

/-- Whether an atom may stand by itself. -/
def Atom.isAllowed (mode : Mode) : Atom → Bool
  | char c byte => !mode.foldsCase && (mode.unicode || !byte || c.toNat < 128)
  | _ => true

/-- Whether an atom may stand in brackets. -/
def Atom.isItem (mode : Mode) : Atom → Bool
  | char c _ => mode.unicode || c.toNat < 128
  | set => true
  | place => false

/-- So many hexadecimal digits. -/
def hexDigits? (mode : Mode) : Nat → Text → Option (Text × Text)
  | 0, s => some ([], s)
  | count + 1, s =>
    match mode.skip s with
    | [] => none
    | c :: rest =>
      if isDigitOf 16 c then
        (hexDigits? mode count rest).map fun (digits, rest) => (c :: digits, rest)
      else none

/-- The character that so many hexadecimal digits name. -/
def named? (mode : Mode) (count : Nat) (s : Text) : Option (Atom × Text) := do
  let (digits, rest) ← hexDigits? mode count s
  let c ← Text.codePoint? digits
  return (.char c (count == 2), rest)

/-- The control character that a letter stands for. -/
def control? : Char → Option Char
  | 'a' => some '\x07'
  | 'f' => some '\x0c'
  | 't' => some '\t'
  | 'n' => some '\n'
  | 'r' => some '\r'
  | 'v' => some '\x0b'
  | _ => none

/-- What follows a backslash. The words, digits, blanks and word boundaries of all scripts need
tables, and of bytes the complements of sets are no characters. -/
def escape? (mode : Mode) : Text → Option (Atom × Text)
  | [] => none
  | c :: rest =>
    if c = 'x' then named? mode 2 rest
    else if c = 'u' then named? mode 4 rest
    else if c = 'U' then named? mode 8 rest
    else if c = 'd' ∨ c = 's' ∨ c = 'w' then if mode.unicode then none else some (.set, rest)
    else if c = 'b' ∨ c = 'B' ∨ c = '<' ∨ c = '>' then
      if mode.unicode then none else some (.place, rest)
    else if c = 'A' ∨ c = 'z' then some (.place, rest)
    else match control? c with
      | some c => some (.char c false, rest)
      | none =>
        if c.toNat < 128 ∧ !c.isAlphanum then some (.char c false, rest) else none

/-- One character or one escape. -/
def atom? (mode : Mode) : Text → Option (Atom × Text)
  | [] => none
  | '\\' :: rest => escape? mode rest
  | c :: rest => some (.char c false, rest)

/-! ## Sets in brackets -/

/-- The names of sets that may stand in brackets, between colons and brackets of their own. -/
def setNames : List Text :=
  ["alnum", "alpha", "ascii", "blank", "cntrl", "digit", "graph", "lower", "print", "punct",
    "space", "upper", "word", "xdigit"]

/-- The name of a set after its opening bracket and colon, as whether it stands for the complement,
and the rest. -/
def setName? (s : Text) : Option (Bool × Text) :=
  let (complement, s) := match s with
    | '^' :: s => (true, s)
    | s => (false, s)
  match Text.cut ':' s with
  | (name, some (']' :: rest)) => if name ∈ setNames then some (complement, rest) else none
  | _ => none

/-- An item of a set, or a range between two characters. A hyphen before the closing bracket or
before another hyphen makes no range. -/
def item? (mode : Mode) (s : Text) : Option Text := do
  let (first, rest) ← atom? mode s
  let single : Option Text := if first.isItem mode then some rest else none
  match mode.skip rest with
  | '-' :: tail =>
    match mode.skip tail with
    | ']' :: _ | '-' :: _ => single
    | tail =>
      let (last, rest) ← atom? mode tail
      match first, last with
      | .char low _, .char high _ =>
        if first.isItem mode ∧ last.isItem mode ∧ low.toNat ≤ high.toNat then some rest else none
      | _, _ => none
  | _ => single

/-- What follows the hyphens at the start of a set. -/
def dropHyphens (mode : Mode) : Text → Text
  | '-' :: s => dropHyphens mode s
  | c :: s => if mode.spaced ∧ isBlank c then dropHyphens mode s else c :: s
  | [] => []

/-- The start of a set after its opening bracket: a sign for the complement, which is no set of
characters if bytes are matched, and either hyphens or one closing bracket, which are items. -/
def openSet? (mode : Mode) (s : Text) : Option Text :=
  let (complement, s) := match mode.skip s with
    | '^' :: s => (true, mode.skip s)
    | s => (false, s)
  if complement ∧ !mode.unicode then none
  else match s with
    | '-' :: s => some (dropHyphens mode s)
    | ']' :: s => some s
    | s => some s

/-- What follows a set, from its start on, of which so many brackets are open. At most so many
items, signs and brackets are read. -/
def closeSet? (mode : Mode) : (limit depth : Nat) → Text → Option Text
  | 0, _, _ => none
  | limit + 1, depth, s =>
    match mode.skip s with
    | ']' :: rest => if depth ≤ 1 then some rest else closeSet? mode limit (depth - 1) rest
    | '&' :: '&' :: rest | '-' :: '-' :: rest | '~' :: '~' :: rest =>
      closeSet? mode limit depth rest
    | '[' :: rest =>
      let name? := match rest with
        | ':' :: name => setName? name
        | _ => none
      match name? with
      | some (complement, rest) =>
        if complement ∧ !mode.unicode then none else closeSet? mode limit depth rest
      | none => (openSet? mode rest).bind (closeSet? mode limit (depth + 1))
    | s => (item? mode s).bind (closeSet? mode limit depth)

/-- What follows a set, given what follows its opening bracket. -/
def set? (mode : Mode) (s : Text) : Option Text :=
  if mode.foldsCase then none else (openSet? mode s).bind (closeSet? mode (s.length + 1) 1)

/-! ## Groups -/

/-- A place in a pattern. -/
structure Position where
  mode : Mode := {}
  /-- The modes around the open groups, from the inside to the outside. -/
  around : List Mode := []
  /-- The names of groups so far. -/
  names : List Text := []
  /-- Whether there is something to repeat. -/
  isAfterOperand : Bool := false
  deriving DecidableEq, Repr

/-- The position after the start of a group that is read under a mode. -/
def Position.enter (p : Position) (mode : Mode) : Position :=
  { p with mode, around := p.mode :: p.around, isAfterOperand := false }

/-- The mode that flags make of one, and what follows them, which is a colon or a closing bracket.
A flag occurs once, and a hyphen turns the flags after it off, of which there must be some. -/
def flags? (on : Bool) (seen : Text) (mode : Mode) : Text → Option (Mode × Text)
  | [] => none
  | c :: rest =>
    if c = ':' ∨ c = ')' then
      if seen.head? = some '-' ∨ (c = ')' ∧ seen.isEmpty) then none else some (mode, c :: rest)
    else if c ∈ seen ∨ c ∉ "imsRUux-".toList then none
    else flags? (on && c != '-') (c :: seen) (mode.set c on) rest

/-- Whether a text may be the name of a group. -/
def isGroupName : Text → Bool
  | [] => false
  | c :: s =>
    (c == '_' || (isAlphanumeric c && !c.isDigit)) &&
      s.all fun c => c == '_' || c == '.' || c == '[' || c == ']' || isAlphanumeric c

/-- The start of a group after its name's opening bracket. -/
def enterNamed? (p : Position) (s : Text) : Option (Position × Text) :=
  match Text.cut '>' s with
  | (name, some rest) =>
    if isGroupName name ∧ name ∉ p.names then
      some ({ p.enter p.mode with names := name :: p.names }, rest)
    else none
  | (_, none) => none

/-- The start of a group, or flags for the rest of the one around, after the opening bracket. -/
def enter? (p : Position) (s : Text) : Option (Position × Text) :=
  match p.mode.skip s with
  | '?' :: 'P' :: '<' :: rest | '?' :: '<' :: rest => enterNamed? p rest
  | '?' :: rest =>
    match flags? true [] p.mode rest with
    | some (mode, ':' :: rest) => some (p.enter mode, rest)
    | some (mode, _ :: rest) => some ({ p with mode, isAfterOperand := false }, rest)
    | _ => none
  | rest => some (p.enter p.mode, rest)

/-- The position after the end of a group. -/
def Position.leave? (p : Position) : Option Position :=
  match p.around with
  | [] => none
  | mode :: around => some { p with mode, around, isAfterOperand := true }

/-! ## Patterns -/

/-- Read one sign of a pattern, which begins with a certain character. -/
def sign? (p : Position) (c : Char) (rest : Text) : Option (Position × Text) :=
  let operand : Position := { p with isAfterOperand := true }
  if c = '(' then enter? p rest
  else if c = ')' then p.leave?.map fun p => (p, rest)
  else if c = '|' then some ({ p with isAfterOperand := false }, rest)
  else if c = '[' then (set? p.mode rest).map fun rest => (operand, rest)
  else if c = '?' ∨ c = '*' ∨ c = '+' then if p.isAfterOperand then some (p, rest) else none
  else if c = '\x7b' then none
  else if c = '^' ∨ c = '$' then some (operand, rest)
  else if c = '.' then if p.mode.unicode then some (operand, rest) else none
  else match atom? p.mode (c :: rest) with
    | some (atom, rest) => if atom.isAllowed p.mode then some (operand, rest) else none
    | none => none

/-- Whether the rest of a pattern, of at most so many signs, is valid at a position. -/
def isValidFrom : (limit : Nat) → Position → Text → Bool
  | 0, _, _ => false
  | limit + 1, p, s =>
    match p.mode.skip s with
    | [] => p.around.isEmpty
    | c :: rest =>
      match sign? p c rest with
      | some (p, rest) => isValidFrom limit p rest
      | none => false

/-- Whether a text is a pattern. -/
def isValid (s : Text) : Bool := isValidFrom (s.length + 1) {} s

end CrudScaffold.Pattern
