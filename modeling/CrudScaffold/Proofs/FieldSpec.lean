import CrudScaffold.FieldSpec.Block
import CrudScaffold.Proofs.FieldSpec.Token
import CrudScaffold.Proofs.Path

set_option autoImplicit false

/-! # Reading schemas

A block of schema entries tells its fields (`FieldSpec.shown_of_schemaBlock`), if no text in it has a
line break. Its lines are read one after the other: what comes after the line of a type tells whether
the comma at the end of that line belongs to the type, and the last line of an entry tells whether
another one follows. -/

namespace CrudScaffold

namespace FieldSpec

/-- What a schema shows of a field. -/
structure Shown where
  name : Text
  type : Text
  required : Bool
  literal? : Option Text
  deriving DecidableEq, Repr

def shown (field : FieldSpec) : Shown :=
  ⟨field.name, field.schemaType, field.required, field.defaultLiteral?⟩

/-! ## The lines of an entry -/

/-- A comma if something follows. -/
def comma (more : Bool) : Text := if more then [','] else []

namespace Shown

variable {s s' : Shown} {more more' : Bool} {rest rest' : List Text}

/-- The lines of an entry after its type. -/
def extras (s : Shown) : List Text :=
  (if s.required then [("      required: true" : Text) ++ comma s.literal?.isSome] else []) ++
    (s.literal?.map fun literal => ("      default: " : Text) ++ literal).toList

/-- The lines of an entry, which may be followed by another one. -/
def lines (s : Shown) (more : Bool) : List Text :=
  (("    " : Text) ++ s.name ++ (": \x7b" : Text)) ::
    (("      type: " : Text) ++ s.type ++ comma (!s.extras.isEmpty)) ::
    (s.extras ++ [("    \x7d" : Text) ++ comma more])

/-- The lines after the type of a field tell what they are by how they begin. -/
theorem extras_append_inj
    (h : s.extras ++ (("    \x7d" : Text) ++ comma more) :: rest =
      s'.extras ++ (("    \x7d" : Text) ++ comma more') :: rest') :
    s.required = s'.required ∧ s.literal? = s'.literal? ∧ more = more' ∧ rest = rest' := by
  obtain ⟨name, type, required, literal?⟩ := s
  obtain ⟨name', type', required', literal?'⟩ := s'
  cases required <;> cases required' <;> cases literal? <;> cases literal?' <;>
    cases more <;> cases more' <;> simp_all [extras, comma]

theorem lines_append_inj (h : s.lines more ++ rest = s'.lines more' ++ rest') :
    s = s' ∧ more = more' ∧ rest = rest' := by
  obtain ⟨hname, h⟩ := List.cons.inj h
  obtain ⟨htype, h⟩ := List.cons.inj h
  obtain ⟨hrequired, hliteral, hmore, hrest⟩ := extras_append_inj (by simpa using h)
  have hextras : s.extras = s'.extras := by simp only [extras, hrequired, hliteral]
  rw [hextras] at htype
  refine ⟨?_, hmore, hrest⟩
  obtain ⟨name, type, required, literal?⟩ := s
  obtain ⟨name', type', required', literal?'⟩ := s'
  simp_all

/-- The lines of the entries of some fields. -/
def blockLines : List Shown → List Text
  | [] => []
  | s :: rest => s.lines (!rest.isEmpty) ++ blockLines rest

theorem blockLines_inj : ∀ {fields fields' : List Shown},
    blockLines fields = blockLines fields' → fields = fields' := by
  intro fields
  induction fields with
  | nil =>
    intro fields' h
    cases fields' with
    | nil => rfl
    | cons s' rest' => simp [blockLines, lines] at h
  | cons s rest ih =>
    intro fields' h
    cases fields' with
    | nil => simp [blockLines, lines] at h
    | cons s' rest' =>
      obtain ⟨rfl, -, hrest⟩ := lines_append_inj h
      rw [ih hrest]

theorem blockLines_ne_nil (s : Shown) (rest : List Shown) : blockLines (s :: rest) ≠ [] := by
  simp [blockLines, lines]

/-! ## Line breaks -/

/-- Whether no text of a field has a line break. -/
structure OneLine (s : Shown) : Prop where
  name : '\n' ∉ s.name
  type : '\n' ∉ s.type
  literal : ∀ literal, s.literal? = some literal → '\n' ∉ literal

theorem notMem_comma (more : Bool) : '\n' ∉ comma more := by cases more <;> simp [comma]

theorem notMem_extras (h : s.OneLine) : ∀ line ∈ s.extras, '\n' ∉ line := by
  intro line hline
  rcases List.mem_append.1 hline with hrequired | hdefault
  · split at hrequired
    · rw [List.mem_singleton.1 hrequired]
      simp [notMem_comma]
    · simp at hrequired
  · rw [Option.mem_toList, Option.map_eq_some_iff] at hdefault
    obtain ⟨literal, hliteral, rfl⟩ := hdefault
    simp [h.literal literal hliteral]

theorem notMem_lines (h : s.OneLine) : ∀ line ∈ s.lines more, '\n' ∉ line := by
  have hextras := notMem_extras h
  simp [lines, h.name, h.type, notMem_comma, or_imp, forall_and]
  exact hextras

theorem notMem_blockLines {fields : List Shown} (h : ∀ s ∈ fields, s.OneLine) :
    ∀ line ∈ blockLines fields, '\n' ∉ line := by
  induction fields with
  | nil => simp [blockLines]
  | cons s rest ih =>
    rw [List.forall_mem_cons] at h
    intro line hline
    rcases List.mem_append.1 hline with hline | hline
    · exact notMem_lines h.1 line hline
    · exact ih h.2 line hline

end Shown

open Shown

variable {fields fields' : List FieldSpec} {placeholder : Bool}

/-! ## Blocks -/

theorem schemaEntry_append (field : FieldSpec) (more : Bool) :
    field.schemaEntry ++ comma more = ['\n'].intercalate (field.shown.lines more) := by
  -- To unfold by its equations would read the literals in it.
  delta schemaEntry
  by_cases hrequired : field.required = true <;>
    rcases Option.eq_none_or_eq_some field.defaultLiteral? with hnone | ⟨literal, hsome⟩ <;>
    simp [lines, extras, shown, List.intercalate, comma, *]

theorem intercalate_schemaEntry (field : FieldSpec) (rest : List FieldSpec) :
    List.intercalate (",\n" : Text) ((field :: rest).map schemaEntry) =
      ['\n'].intercalate (blockLines ((field :: rest).map shown)) := by
  induction rest generalizing field with
  | nil =>
    have hentry := schemaEntry_append field false
    simpa [List.intercalate, blockLines, comma] using hentry
  | cons next rest ih =>
    have hentry := schemaEntry_append field true
    have hcut : List.intercalate (",\n" : Text) ((field :: next :: rest).map schemaEntry) =
        field.schemaEntry ++ comma true ++
          '\n' :: List.intercalate (",\n" : Text) ((next :: rest).map schemaEntry) := by
      simp [List.intercalate, comma]
    have hlines : blockLines ((field :: next :: rest).map shown) =
        field.shown.lines true ++ blockLines ((next :: rest).map shown) := rfl
    rw [hcut, hentry, ih, hlines]
    exact (Text.intercalate_append '\n' (by simp [lines]) (blockLines_ne_nil _ _)).symm

/-- A block without fields is no block of fields, placeholder or not. -/
theorem schemaBlock_nil_ne (field : FieldSpec) (rest : List FieldSpec) :
    schemaBlock [] placeholder ≠ schemaBlock (field :: rest) placeholder := by
  obtain ⟨after, hafter⟩ : ∃ after, schemaBlock (field :: rest) placeholder = ("   " : Text) ++ after := by
    rw [schemaBlock, if_neg (by simp), intercalate_schemaEntry]
    exact ⟨_, by simp [blockLines, lines, List.intercalate]; rfl⟩
  rw [hafter]
  cases placeholder <;> simp [schemaBlock, List.intercalate]

theorem lines_of_schemaBlock {field : FieldSpec} {rest : List FieldSpec}
    (h : ∀ f ∈ field :: rest, f.shown.OneLine) :
    Text.splitOn '\n' (schemaBlock (field :: rest) placeholder) =
      blockLines ((field :: rest).map shown) := by
  have hlines : ∀ line ∈ blockLines ((field :: rest).map shown), '\n' ∉ line :=
    notMem_blockLines (by simpa using h)
  rw [schemaBlock, if_neg (by simp), intercalate_schemaEntry]
  obtain ⟨first, later, hcons⟩ := List.exists_cons_of_ne_nil (blockLines_ne_nil field.shown (rest.map shown))
  rw [← List.map_cons] at hcons
  rw [hcons] at hlines ⊢
  exact Text.splitOn_intercalate '\n' first later (hlines first List.mem_cons_self)
    fun line hline => hlines line (List.mem_cons_of_mem _ hline)

/-- **Reading a block.** Blocks that say the same show the same fields, one by one. -/
theorem shown_of_schemaBlock (hfields : ∀ f ∈ fields, f.shown.OneLine)
    (hfields' : ∀ f ∈ fields', f.shown.OneLine)
    (h : schemaBlock fields placeholder = schemaBlock fields' placeholder) :
    fields.map shown = fields'.map shown := by
  cases fields with
  | nil =>
    cases fields' with
    | nil => rfl
    | cons field' rest' => exact absurd h (schemaBlock_nil_ne field' rest')
  | cons field rest =>
    cases fields' with
    | nil => exact absurd h.symm (schemaBlock_nil_ne field rest)
    | cons field' rest' =>
      have hlines := congrArg (Text.splitOn '\n') h
      rw [lines_of_schemaBlock hfields, lines_of_schemaBlock hfields'] at hlines
      exact blockLines_inj hlines

/-! ## Tokens -/

theorem oneLine_shown_parse {token : Text} (h : '\n' ∉ token) : (parse token).shown.OneLine := by
  obtain ⟨shape, rfl⟩ := TokenShape.exists_text token
  obtain ⟨hname, htag, hvalue⟩ := TokenShape.notMem_of_text h
  rw [TokenShape.parse_text]
  have htagText : '\n' ∉ shape.tag := by
    rw [TokenShape.tag]
    split
    · decide
    · exact htag
  refine ⟨hname, Text.notMem_capitalize (by decide) htagText, fun literal hliteral => ?_⟩
  obtain ⟨value, hvalueOf, rfl⟩ := Option.map_eq_some_iff.1 hliteral
  have hdefault : shape.default? = some value := hvalueOf
  have hvalueText : '\n' ∉ value := by rwa [hdefault] at hvalue
  split
  · simp [hvalueText]
  · exact hvalueText

end FieldSpec

end CrudScaffold
