import CrudScaffold.Text.Case

set_option autoImplicit false

/-! # Field specifications

A field of a model is given as a token `name[:type[:required[:default]]]`. Reading a token never
fails: what is left out has a default, and everything after the third colon belongs to the default
value of the field. -/

namespace CrudScaffold

/-- The kinds of fields that are validated by their type. -/
inductive FieldKind where
  | string
  | number
  | boolean
  | date
  /-- Any other type. -/
  | other
  deriving DecidableEq, Repr

/-- The kind that a type tag names, in any mixture of cases. -/
def FieldKind.ofTag (tag : Text) : FieldKind :=
  let name := tag.lower
  if name = ("string" : Text) then .string
  else if name = ("number" : Text) then .number
  else if name = ("boolean" : Text) then .boolean
  else if name = ("date" : Text) then .date
  else .other

/-- The expression that validates a field of a kind. -/
def FieldKind.validator : FieldKind → Text
  | string => "joi.string()"
  | number => "joi.number()"
  | boolean => "joi.boolean()"
  | date => "joi.date()"
  | other => "joi.any()"

/-- A field of a model. -/
structure FieldSpec where
  name : Text
  /-- The type as it was written. -/
  tag : Text
  kind : FieldKind
  required : Bool
  default? : Option Text
  deriving DecidableEq, Repr

namespace FieldSpec

/-- The segments of a token: its name, then type, requirement and default as far as given. -/
def segments (token : Text) : Text × Option Text × Option Text × Option Text :=
  let (name, rest) := token.cut ':'
  let (tag, rest) := match rest with
    | none => (none, none)
    | some rest => let (tag, rest) := rest.cut ':'; (some tag, rest)
  let (required, rest) := match rest with
    | none => (none, none)
    | some rest => let (required, rest) := rest.cut ':'; (some required, rest)
  (name, tag, required, rest)

/-- Read a token. A missing or empty type is `string`, and a field is required if the third
segment is `true` in any mixture of cases. -/
def parse (token : Text) : FieldSpec :=
  let (name, tag?, required?, default?) := segments token
  let tag := match tag? with
    | none | some [] => ("string" : Text)
    | some tag => tag
  { name, tag, kind := FieldKind.ofTag tag
    required := required?.any fun flag => flag.eqIgnoringAsciiCase "true"
    default? }

/-- The token of a field with its type and requirement spelled out. -/
def token (field : FieldSpec) : Text :=
  field.name ++ ':' :: field.tag ++ ':' :: (if field.required then ("true" : Text) else "false") ++
    match field.default? with
    | none => []
    | some value => ':' :: value

/-- The type of a field in a schema: the tag with its first letter in upper case. -/
def schemaType (field : FieldSpec) : Text := field.tag.capitalize

/-- The default value as it stands in a schema: in single quotes for a string, else as it was
written. -/
def defaultLiteral? (field : FieldSpec) : Option Text :=
  field.default?.map fun value =>
    if field.kind = .string then '\'' :: value ++ ['\''] else value

end FieldSpec

end CrudScaffold
