import CrudScaffold.Decimal.Stepwise
import CrudScaffold.Decimal.Written
import CrudScaffold.Template

set_option autoImplicit false

/-! # Template contexts

The values that a template is filled from: data of the kinds that JSON has. Every slot that the
template uses must be a key of the context; there are no default values. -/

namespace CrudScaffold

/-- A number of a context. -/
inductive ContextNumber where
  | integer (value : Int)
  | real (value : Binary64)
  deriving DecidableEq, Repr

/-- A number as it was written: an integer if it has neither point nor exponent and fits into 64
bits, with or without sign, else a floating-point number, which is read in steps. -/
def ContextNumber.ofText? (s : Text) : Option ContextNumber :=
  (Numeral.parts? s).map fun parts =>
    let x := Numeral.ofParts parts
    let value : Int := if x.negative then -(x.digits : Int) else x.digits
    let plain := s.all fun c => c.isDigit || c == '-'
    let negativeZero := x.negative ∧ x.digits = 0
    let fits := -(Nat.pow 2 63 : Int) ≤ value ∧ value < Nat.pow 2 64
    if plain ∧ ¬negativeZero ∧ fits then .integer value
    else .real (Binary64.ofParts parts)

/-- The text of a number. -/
def ContextNumber.text : ContextNumber → Text
  | integer value => Text.ofInt value
  | real value => Notation64.value.write value

/-- A value of a context. -/
inductive ContextValue where
  | null
  | bool (value : Bool)
  | number (value : ContextNumber)
  | string (value : Text)
  | array (items : List ContextValue)
  | object (entries : List (Text × ContextValue))

namespace ContextValue

/-- The text that a value puts into a slot. -/
def text : ContextValue → Text
  | null => []
  | bool value => if value then "true" else "false"
  | number value => value.text
  | string value => value
  | array items => '[' :: List.intercalate (", " : Text) (texts items) ++ [']']
  | object _ => "[object]"
where
  /-- The texts of some values. -/
  texts : List ContextValue → List Text
    | [] => []
    | item :: items => item.text :: texts items

/-- The value that a context has for a slot. -/
def slot? (context : ContextValue) (slot : Slot) : Option ContextValue :=
  match context with
  | object entries => entries.lookup slot.name
  | _ => none

/-- Whether a context is a sequence, which has no names at all. -/
def isArray : ContextValue → Bool
  | array _ => true
  | _ => false

end ContextValue

/-- Why a template cannot be rendered. -/
inductive RenderError where
  /-- There is no template of this name. -/
  | notFound (template : Text)
  /-- The context has no value for a slot. -/
  | missing (template : Text) (slot : Slot) (position : Position)
  /-- The context is a sequence, so that no slot can have a value. -/
  | sequence (template : Text) (slot : Slot) (position : Position)
  deriving DecidableEq, Repr

/-- The text of a rendering error. -/
def RenderError.message : RenderError → Text
  | notFound template => ("Template not found " : Text) ++ template
  | missing template slot position =>
    place template position ++ ("Failed to access variable in strict mode Some(" : Text) ++
      slot.name.quoted ++ (")" : Text)
  | sequence template slot position =>
    place template position ++ ("Cannot access array/vector with string index, " : Text) ++
      slot.name
where
  /-- Where the error is. -/
  place (template : Text) (position : Position) : Text :=
    ("Error rendering " : Text) ++ template.quoted ++ (" line " : Text) ++
      Text.ofNat position.line ++ (", col " : Text) ++ Text.ofNat position.column ++ (": " : Text)

/-- Fill a template, known by a name, from a context. -/
def Template.render (t : Template) (name : Text) (context : ContextValue) :
    Except RenderError Text :=
  (t.fill fun slot => (context.slot? slot).map ContextValue.text).mapError fun (slot, position) =>
    if context.isArray then .sequence name slot position else .missing name slot position

end CrudScaffold
