import CrudScaffold.Text.Quoted

set_option autoImplicit false

/-! # Templates

A template is text with named slots. Its source writes a slot as its name between double braces.
To fill a template is to put a text into every slot, once and as it is: the text of a value is
never read as a slot. Filling fails at the first slot that has no text, and tells where in the
source that slot stands. -/

namespace CrudScaffold

/-- What a slot stands for. -/
inductive Slot where
  /-- The name of the model. -/
  | modelName
  /-- The name with its first letter in upper case. -/
  | modelPascal
  /-- The name with an `s` after it. -/
  | modelPlural
  /-- The schema entries of the fields. -/
  | schemaFields
  /-- The rules for new data. -/
  | createRules
  /-- The rules for changes. -/
  | updateRules
  deriving DecidableEq, Repr

/-- The name of a slot in the source of a template. -/
def Slot.name : Slot → Text
  | modelName => "model_name"
  | modelPascal => "model_pascal"
  | modelPlural => "model_plural"
  | schemaFields => "schema_fields"
  | createRules => "create_rules"
  | updateRules => "update_rules"

/-- A part of a template. -/
inductive Segment where
  | text (text : Text)
  | slot (slot : Slot)
  deriving DecidableEq, Repr

/-- Text with slots in it. -/
abbrev Template := List Segment

/-- Literal text in a template. -/
instance : Coe String Segment := ⟨fun text => .text (Text.ofString text)⟩

/-- A slot in a template. -/
instance : Coe Slot Segment := ⟨.slot⟩

/-- A template of whole lines, each of which ends in a line break. -/
def Template.ofLines (lines : List (List Segment)) : Template :=
  lines.flatMap fun line => line ++ [.text ['\n']]

/-- The source of a part of a template. -/
def Segment.source : Segment → Text
  | text s => s
  | slot s => ("\x7b\x7b" : Text) ++ s.name ++ ("\x7d\x7d" : Text)

/-- The source of a template. -/
def Template.source (t : Template) : Text := t.flatMap Segment.source

/-! ## Positions -/

/-- A position in a text: its line and its column, both counted from one. -/
structure Position where
  line : Nat
  column : Nat
  deriving DecidableEq, Repr

/-- The position of the first character. -/
def Position.start : Position := ⟨1, 1⟩

/-- The position after a text that begins at a position. -/
def Position.after (p : Position) (s : Text) : Position :=
  s.foldl (fun p c => if c = '\n' then ⟨p.line + 1, 1⟩ else ⟨p.line, p.column + 1⟩) p

/-! ## Filling -/

/-- Fill the slots of a template whose source begins at a position. If a slot has no text, the
answer is that slot and its position. -/
def Template.fillFrom (value? : Slot → Option Text) : Position → Template →
    Except (Slot × Position) Text
  | _, [] => .ok []
  | p, segment :: rest =>
    let filled := fillFrom value? (p.after segment.source) rest
    match segment with
    | .text s => filled.map (s ++ ·)
    | .slot slot =>
      match value? slot with
      | none => .error (slot, p)
      | some s => filled.map (s ++ ·)

/-- Fill the slots of a template. -/
def Template.fill (value? : Slot → Option Text) (t : Template) : Except (Slot × Position) Text :=
  t.fillFrom value? .start

end CrudScaffold
