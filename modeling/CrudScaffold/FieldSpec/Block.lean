import CrudScaffold.FieldSpec

set_option autoImplicit false

/-! # Field blocks

The parts of the generated files that list the fields of a model: the entries of its schema and
its validation rules. A model without fields may show a placeholder instead. -/

namespace CrudScaffold

/-- What a list of validation rules is for. -/
inductive RuleMode where
  /-- New data, in which required fields must be present. -/
  | create
  /-- Partial changes, in which nothing is required. -/
  | update
  deriving DecidableEq, Repr

namespace FieldSpec

/-- The entry of a field in a schema. -/
def schemaEntry (field : FieldSpec) : Text :=
  ("    " : Text) ++ field.name ++ (": \x7b\n      type: " : Text) ++ field.schemaType ++
    (if field.required then (",\n      required: true" : Text) else []) ++
    (match field.defaultLiteral? with
      | none => []
      | some literal => (",\n      default: " : Text) ++ literal) ++
    ("\n    \x7d" : Text)

/-- The validation rule of a field. -/
def rule (mode : RuleMode) (field : FieldSpec) : Text :=
  ("  " : Text) ++ field.name ++ (": " : Text) ++ field.kind.validator ++
    (if mode = .create ∧ field.required then (".required()" : Text) else [])

/-- The schema entries of some fields. -/
def schemaBlock (fields : List FieldSpec) (placeholder : Bool) : Text :=
  if fields = [] ∧ placeholder then "  attribut: \x7b\n      type: String,\n  \x7d"
  else List.intercalate (",\n" : Text) (fields.map schemaEntry)

/-- The validation rules of some fields. -/
def ruleBlock (mode : RuleMode) (fields : List FieldSpec) (placeholder : Bool) : Text :=
  if fields = [] ∧ placeholder then "  attribut: joi.string()\n"
  else List.intercalate (",\n    " : Text) (fields.map (rule mode))

end FieldSpec

end CrudScaffold
