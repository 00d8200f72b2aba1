import CrudScaffold.FieldSpec
import CrudScaffold.Proofs.Case

set_option autoImplicit false

/-! # Tokens and the fields they give

A token is a name, then a type, a flag and a default value, each behind a colon and as far as they are
given. Only the default value may hold a colon itself, so that every token has one of these shapes and
no other, and the shape tells the field (`FieldSpec.parse_by_shape`). A field is read from the token it
is printed as exactly if it is one that some token gives (`FieldSpec.parse_token_eq_iff`). -/

namespace CrudScaffold

theorem Text.notMem_or_exists_append (sep : Char) (s : Text) :
    sep ∉ s ∨ ∃ before after, sep ∉ before ∧ s = before ++ sep :: after := by
  by_cases h : sep ∈ s
  · obtain ⟨before, after, hs, hbefore⟩ := List.eq_append_cons_of_mem h
    exact Or.inr ⟨before, after, hbefore, hs⟩
  · exact Or.inl h

/-- A segment of a token that another one may follow. -/
abbrev TokenSegment := {s : Text // ':' ∉ s}

theorem TokenSegment.colon_notMem (s : TokenSegment) : ':' ∉ s.val := s.property

/-- The ways in which a token is put together from segments. -/
inductive TokenShape where
  | bare (name : TokenSegment)
  | typed (name tag : TokenSegment)
  | flagged (name tag flag : TokenSegment)
  | full (name tag flag : TokenSegment) (value : Text)
  deriving DecidableEq, Repr

namespace TokenShape

variable {shape shape' : TokenShape}

/-- The token of a shape. -/
def text : TokenShape → Text
  | bare name => name.val
  | typed name tag => name.val ++ ':' :: tag.val
  | flagged name tag flag => name.val ++ ':' :: (tag.val ++ ':' :: flag.val)
  | full name tag flag value => name.val ++ ':' :: (tag.val ++ ':' :: (flag.val ++ ':' :: value))

def name : TokenShape → Text
  | bare name | typed name _ | flagged name _ _ | full name _ _ _ => name.val

def tag? : TokenShape → Option Text
  | bare _ => none
  | typed _ tag | flagged _ tag _ | full _ tag _ _ => some tag.val

def flag? : TokenShape → Option Text
  | bare _ | typed _ _ => none
  | flagged _ _ flag | full _ _ flag _ => some flag.val

def default? : TokenShape → Option Text
  | bare _ | typed _ _ | flagged _ _ _ => none
  | full _ _ _ value => some value

/-- The type of the field, which is `string` if it is missing or empty. -/
def tag (shape : TokenShape) : Text :=
  if shape.tag?.getD [] = [] then "string" else shape.tag?.getD []

theorem colon_notMem_name (shape : TokenShape) : ':' ∉ shape.name := by
  cases shape <;> exact TokenSegment.colon_notMem _

theorem colon_notMem_tag (shape : TokenShape) : ':' ∉ shape.tag := by
  rw [tag]
  split
  · decide
  · cases shape <;> simp [tag?, TokenSegment.colon_notMem]

theorem tag_ne_nil (shape : TokenShape) : shape.tag ≠ [] := by
  rw [tag]
  split
  · decide
  · assumption

/-! ## The shape of a printed field -/

/-- The flag that a requirement is printed as. -/
def flagOf (required : Bool) : TokenSegment :=
  ⟨if required then "true" else "false", by cases required <;> decide⟩

/-- The shape of the token that a field is printed as. -/
def printed (name tag : TokenSegment) (required : Bool) : Option Text → TokenShape
  | none => flagged name tag (flagOf required)
  | some value => full name tag (flagOf required) value

section Printed

variable (name tag : TokenSegment) (required : Bool) (value? : Option Text)

@[simp] theorem name_printed : (printed name tag required value?).name = name.val := by
  cases value? <;> rfl

@[simp] theorem tag?_printed : (printed name tag required value?).tag? = some tag.val := by
  cases value? <;> rfl

@[simp] theorem flag?_printed : (printed name tag required value?).flag? = some (flagOf required).val := by
  cases value? <;> rfl

@[simp] theorem default?_printed : (printed name tag required value?).default? = value? := by
  cases value? <;> rfl

end Printed

/-! ## Cutting a token -/

theorem segments_text (shape : TokenShape) :
    FieldSpec.segments shape.text = (shape.name, shape.tag?, shape.flag?, shape.default?) := by
  cases shape <;>
    simp [FieldSpec.segments, text, name, tag?, flag?, default?, Text.cut_append, Text.cut_of_notMem,
      TokenSegment.colon_notMem]

theorem eq_of_text (h : shape.text = shape'.text) : shape = shape' := by
  have hsegments := congrArg FieldSpec.segments h
  rw [segments_text, segments_text] at hsegments
  simp only [Prod.mk.injEq] at hsegments
  cases shape <;> cases shape' <;>
    simp_all [name, tag?, flag?, default?, Subtype.ext_iff]

theorem exists_text (token : Text) : ∃ shape : TokenShape, shape.text = token := by
  rcases Text.notMem_or_exists_append ':' token with hname | ⟨name, afterName, hname, rfl⟩
  · exact ⟨bare ⟨token, hname⟩, rfl⟩
  rcases Text.notMem_or_exists_append ':' afterName with htag | ⟨tag, afterTag, htag, rfl⟩
  · exact ⟨typed ⟨name, hname⟩ ⟨afterName, htag⟩, rfl⟩
  rcases Text.notMem_or_exists_append ':' afterTag with hflag | ⟨flag, value, hflag, rfl⟩
  · exact ⟨flagged ⟨name, hname⟩ ⟨tag, htag⟩ ⟨afterTag, hflag⟩, rfl⟩
  · exact ⟨full ⟨name, hname⟩ ⟨tag, htag⟩ ⟨flag, hflag⟩ value, rfl⟩

/-- A token has one shape, as its segments can be cut off again. -/
theorem existsUnique_text (token : Text) : ∃! shape : TokenShape, shape.text = token := by
  obtain ⟨shape, hshape⟩ := exists_text token
  exact ⟨shape, hshape, fun _ hother => eq_of_text (hother.trans hshape.symm)⟩

/-- A character that is not in a token is in none of its segments. -/
theorem notMem_of_text {c : Char} (h : c ∉ shape.text) :
    c ∉ shape.name ∧ c ∉ shape.tag?.getD [] ∧ c ∉ shape.default?.getD [] := by
  cases shape <;> simp_all [text, name, tag?, default?]

/-! ## Reading a token -/

theorem parse_text (shape : TokenShape) : FieldSpec.parse shape.text =
    { name := shape.name
      tag := shape.tag
      kind := FieldKind.ofTag shape.tag
      required := shape.flag?.any fun flag => flag.eqIgnoringAsciiCase "true"
      default? := shape.default? } := by
  rw [FieldSpec.parse, segments_text, tag]
  rcases shape.tag? with _ | _ | ⟨c, cs⟩ <;> rfl

end TokenShape

namespace FieldSpec

open TokenShape

variable {field : FieldSpec}

/-- **The shapes of tokens.** A token has one of the four shapes and is put together from segments in no
other way, and what stands in the segments is what is read. -/
theorem parse_by_shape :
    (∀ token : Text, ∃! shape : TokenShape, shape.text = token) ∧
      ∀ shape : TokenShape,
        (parse shape.text).name = shape.name ∧
        (parse shape.text).tag = shape.tag ∧
        ((parse shape.text).required = true ↔ ∃ flag, shape.flag? = some flag ∧ flag.Spells "true") ∧
        (parse shape.text).default? = shape.default? := by
  refine ⟨existsUnique_text, fun shape => ?_⟩
  have hspells (flag : Text) : flag.eqIgnoringAsciiCase "true" = true ↔ flag.Spells "true" :=
    Text.eqIgnoringAsciiCase_iff (by simp)
  rw [parse_text]
  refine ⟨rfl, rfl, ?_, rfl⟩
  simp only [Option.any_eq_true, hspells]

/-- An empty type is left out, and the third colon is the last one that counts. -/
example : parse "a::TRUE::b" = ⟨"a", "string", .string, true, some ":b"⟩ := by decide +kernel

/-! ## Printing and reading -/

/-- Whether a field is one that a token can give. -/
structure WellFormed (field : FieldSpec) : Prop where
  name : ':' ∉ field.name
  tag_ne_nil : field.tag ≠ []
  tag : ':' ∉ field.tag
  kind : field.kind = FieldKind.ofTag field.tag

theorem wellFormed_parse (token : Text) : (parse token).WellFormed := by
  obtain ⟨shape, rfl⟩ := exists_text token
  rw [parse_text]
  exact ⟨shape.colon_notMem_name, shape.tag_ne_nil, shape.colon_notMem_tag, rfl⟩

theorem parse_token_of_wellFormed (h : field.WellFormed) : parse field.token = field := by
  have htoken : field.token =
      (printed ⟨field.name, h.name⟩ ⟨field.tag, h.tag⟩ field.required field.default?).text := by
    rw [token]
    cases field.default? <;>
      simp only [printed, text, flagOf, List.append_assoc, List.cons_append, List.append_nil]
  have hflag : (flagOf field.required).val.eqIgnoringAsciiCase "true" = field.required := by
    cases field.required <;> decide
  rw [htoken, parse_text]
  simp only [TokenShape.tag, name_printed, tag?_printed, flag?_printed, default?_printed, Option.getD_some,
    if_neg h.tag_ne_nil, Option.any_some, hflag, ← h.kind]

/-- **Printing and reading.** A field is read again from the token it is printed as exactly if it is well
formed, as every field is that was read from a token. -/
theorem parse_token_eq_iff :
    (∀ field : FieldSpec, parse field.token = field ↔ field.WellFormed) ∧
      ∀ token : Text, (parse token).WellFormed ∧ parse (parse token).token = parse token := by
  refine ⟨fun field => ⟨fun h => ?_, parse_token_of_wellFormed⟩, fun token => ?_⟩
  · rw [← h]
    exact wellFormed_parse field.token
  · exact ⟨wellFormed_parse token, parse_token_of_wellFormed (wellFormed_parse token)⟩

end FieldSpec

end CrudScaffold
