import CrudScaffold.Proofs.Case.Mapping
import CrudScaffold.Proofs.Imports

set_option autoImplicit false

/-! # The class of a model

A controller imports the class of its model under the name of the model with a capital, and its handlers keep
what they make from the class in constants under the name of the model and its plural. The two names are
different only if the capital changes the model: with a model such as `User` a handler reads
`const User = new User(body)`, where the constant hides the class that it is made from
(`Resource.not_keepsClass_user`). This is the only way in which a constant can hide the class
(`Resource.keepsClass_iff`): every other constant of a controller begins with a character that no capital
yields. -/

namespace CrudScaffold

open Boilerplate

/-! ## Constants -/

/-- A constant and the expression that it is made from. -/
structure Constant where
  name : Text
  value : Text
  deriving DecidableEq, Repr

/-- The constant that the words of a line declare. -/
def constantOf? : List Text → Option Constant
  | keyword :: name :: sign :: value =>
    if keyword = ("const" : Text) ∧ sign = ['='] then some ⟨name, [' '].intercalate value⟩ else none
  | _ => none

/-- The constant that a line declares after its indentation. -/
def constant? (line : Text) : Option Constant := constantOf? ((Text.splitOn ' ' line).dropWhile (· == []))

/-- The constants that the lines of a text declare. -/
def constants (content : Text) : List Constant := (Text.splitOn '\n' content).filterMap constant?

/-- Whether a constant is made from what a name stands for: the name follows a space, and a member of it or a
call comes next. -/
def Constant.Reads (constant : Constant) (name : Text) : Prop :=
  ∃ before after, constant.value = before ++ ' ' :: (name ++ after) ∧
    (after.head? = some '.' ∨ after.head? = some '(')

/-- Whether no constant of a text reads itself for a class of some name. -/
def KeepsClass (name content : Text) : Prop :=
  ∀ constant ∈ constants content, constant.name = name → ¬constant.Reads name

/-- The name that a line imports by default. -/
def defaultImport? (line : Text) : Option Text :=
  match Text.splitOn ' ' line with
  | _ :: name :: keyword :: _ => if keyword = ("from" : Text) then some name else none
  | _ => none

theorem constantOf?_eq_some {words : List Text} {constant : Constant} (h : constantOf? words = some constant) :
    ∃ rest, words = ("const" : Text) :: constant.name :: rest := by
  unfold constantOf? at h
  split at h
  · next keyword name sign value =>
    split at h
    · next hwords =>
      obtain rfl := Option.some.inj h
      exact ⟨sign :: value, by rw [hwords.1]⟩
    · simp at h
  · simp at h

theorem constant?_eq_some {line name : Text} {words : List Text} {n : Nat}
    (h : Text.splitOn ' ' line = List.replicate n [] ++ ("const" : Text) :: name :: ['='] :: words) :
    constant? line = some ⟨name, [' '].intercalate words⟩ := by
  have hconst : ¬(("const" : Text) == []) = true := by decide
  rw [constant?, h, List.dropWhile_append_of_pos fun word hword => by simp [List.eq_of_mem_replicate hword],
    List.dropWhile_cons, if_neg hconst, constantOf?, if_pos ⟨rfl, rfl⟩]

/-! ## Constants of templates -/

namespace Template

/-- Whether a word is one of those that controllers use for constants: the model, its plural, or a word of the
boilerplate that does not begin as the name of a class does. -/
def isConstantName (word : Template) : Bool :=
  word == [.slot .modelName] || word == [.slot .modelPlural] || word.opening.head?.any followsCapitals

/-- Whether words declare no constant but one of such a name. -/
def keepsClassWords : List Template → Bool
  | [] => true
  | keyword :: words =>
    keyword.opening != [] && (!keyword.mayBegin "const" || words.head?.all isConstantName)

/-- Whether a line declares no constant but one of such a name. -/
def keepsClass (line : Template) : Bool := keepsClassWords ((line.pieces ' ').dropWhile (· == []))

section

variable {value : Slot → Text} {slots : List Slot} {line : Template}

/-- Indentation is seen before a line is filled if a word of the boilerplate follows it. -/
theorem dropWhile_filled {words : List Template} (h : keepsClassWords (words.dropWhile (· == [])) = true) :
    (words.map (filled value)).dropWhile (· == []) = (words.dropWhile (· == [])).map (filled value) := by
  induction words with
  | nil => rfl
  | cons word words ih =>
    by_cases hword : word = []
    · subst hword
      exact ih h
    · have hne : ¬(word == []) = true := by simpa using hword
      rw [List.dropWhile_cons, if_neg hne] at h ⊢
      rw [keepsClassWords, Bool.and_eq_true] at h
      have hopening : word.opening ≠ [] := by simpa using h.1
      have hfilled : ¬(word.filled value == []) = true := by
        intro hnil
        have hbegins : word.opening <+: word.filled value := word.opening_isPrefix
        rw [beq_iff_eq.1 hnil, List.prefix_nil] at hbegins
        exact hopening hbegins
      rw [List.map_cons, List.dropWhile_cons, if_neg hfilled]

theorem name_of_constant? (hline : line.uses slots = true) (hvalue : ∀ slot ∈ slots, ' ' ∉ value slot)
    (h : line.keepsClass = true) {constant : Constant} (hconstant : constant? (line.filled value) = some constant) :
    ∃ word : Template, word.isConstantName = true ∧ constant.name = word.filled value := by
  rw [constant?, splitOn_filled hline hvalue, dropWhile_filled h] at hconstant
  obtain ⟨rest, hwords⟩ := constantOf?_eq_some hconstant
  obtain ⟨keyword, words, hpieces, hkeyword, hwords⟩ := List.map_eq_cons_iff.1 hwords
  obtain ⟨word, words, rfl, hword, -⟩ := List.map_eq_cons_iff.1 hwords
  rw [keepsClass, hpieces, keepsClassWords, Bool.and_eq_true] at h
  have hconst : keyword.mayBegin "const" = true := by
    have hbegins : ("const" : Text) <+: keyword.filled value := ⟨[], by rw [hkeyword, List.append_nil]⟩
    exact mayBegin_of_isPrefix hbegins
  rw [hconst, Bool.not_true, Bool.false_or] at h
  exact ⟨word, h.2, hword.symm⟩

end

end Template

/-! ## Constants of the boilerplate -/

/-- The line that looks a resource up. -/
def Boilerplate.lookupLine : Template :=
  ["        const ", Slot.modelName, " = await ", Slot.modelPascal, ".findById(req.params.id)"]

theorem Boilerplate.lookupLine_pieces : lookupLine.pieces ' ' = List.replicate 8 [] ++
    [Template.spelled ["const"], [.slot .modelName], Template.spelled ["="], Template.spelled ["await"],
      .slot .modelPascal :: Template.spelled [".findById(req.params.id)"]] := by
  decide +kernel

namespace Family

theorem declaration_keepsClass : ∀ e ∈ allEndpoints,
    e.declaration.lines.filter (fun line => !line.keepsClass) = [] := by
  decide +kernel

theorem controller_keepsClass (family : Family) :
    ∀ line ∈ (family.boilerplate .controller).lines, line.keepsClass = true := by
  have hstart : family.controllerStart.lines.filter (fun line => !line.keepsClass) = [] := by
    cases family <;> decide +kernel
  have hexport : (Template.ofLines [family.exportLine]).lines.filter (fun line => !line.keepsClass) = [] := by
    cases family <;> decide +kernel
  have hnone : (family.boilerplate .controller).lines.filter (fun line => !line.keepsClass) = [] := by
    rw [family.filter_lines_controller_of_endpoints rfl declaration_keepsClass, hstart, hexport]
    rfl
  simpa [List.filter_eq_nil_iff] using hnone

theorem getById_mem_handlers (family : Family) : getById ∈ family.handlers := by
  cases family <;> simp [handlers, plainEndpoints, uploadEndpoints, userEndpoints]

theorem lookupLine_mem (family : Family) : lookupLine.spelled ∈ (family.boilerplate .controller).lines := by
  have hmem : lookupLine.spelled ∈ getById.declaration.lines := by decide +kernel
  have hfilter : lookupLine.spelled ∈
      (family.boilerplate .controller).lines.filter (fun line => line == lookupLine.spelled) := by
    rw [family.filter_lines_controller rfl]
    refine List.mem_append_right _ (List.mem_append_left _ ?_)
    exact List.mem_flatMap.2 ⟨getById, family.getById_mem_handlers, List.mem_filter.2 ⟨hmem, by simp⟩⟩
  exact (List.mem_filter.1 hfilter).1

end Family

/-! ## The class and the constants of a controller -/

namespace Resource

variable {constant : Constant}

/-- The name of the class is not that of the list of all resources. -/
theorem pascal_ne_plural (model : Text) : ModelName.pascal model ≠ ModelName.plural model :=
  Text.capitalize_ne_append model 's'

theorem pascal_eq_iff (r : Resource) :
    ModelName.pascal r.model = r.model ↔ ∀ c ∈ r.model.head?, upperCase c = [c] := by
  cases hmodel : r.model with
  | nil => simp [ModelName.pascal, Text.capitalize]
  | cons c s => simp [ModelName.pascal, Text.capitalize_eq_iff]

/-- A name that controllers use for constants is not that of the class, unless the model is. -/
theorem filled_ne_pascal (r : Resource) (hpascal : ModelName.pascal r.model ≠ r.model) {word : Template}
    (h : word.isConstantName = true) : word.filled r.slotText ≠ ModelName.pascal r.model := by
  rw [Template.isConstantName, Bool.or_eq_true, Bool.or_eq_true, beq_iff_eq, beq_iff_eq] at h
  rcases h with (rfl | rfl) | hopening
  · have hmodel : Template.filled r.slotText [.slot .modelName] = r.model := List.append_nil _
    rw [hmodel]
    exact hpascal.symm
  · have hplural : Template.filled r.slotText [.slot .modelPlural] = ModelName.plural r.model :=
      List.append_nil _
    rw [hplural]
    exact (pascal_ne_plural r.model).symm
  · intro heq
    obtain ⟨c, hc, hfollows⟩ := (Option.any_eq_true _ _).1 hopening
    obtain ⟨rest, hrest⟩ := List.head?_eq_some_iff.1 hc
    obtain ⟨after, hafter⟩ : word.opening <+: word.filled r.slotText := word.opening_isPrefix
    rw [heq, hrest, List.cons_append] at hafter
    exact hpascal (Text.capitalize_eq_of_cons hafter.symm hfollows)

/-- A controller has no constant of the name of the class, unless that is the name of the model. -/
theorem constant_ne_pascal (r : Resource) (hpascal : ModelName.pascal r.model ≠ r.model)
    (h : constant ∈ constants (r.planned .controller).content) : constant.name ≠ ModelName.pascal r.model := by
  have huses := (r.family.boilerplate_imports (Or.inl rfl)).1
  rw [constants, planned, Template.splitOn_filled_newline huses r.newline_notMem_slotText, List.filterMap_map,
    List.mem_filterMap] at h
  obtain ⟨line, hline, hconstant⟩ := h
  obtain ⟨word, hword, hname⟩ := Template.name_of_constant? (Template.uses_of_mem_lines huses line hline)
    (r.notMem_slotText (by decide) (by decide)) (r.family.controller_keepsClass line hline) hconstant
  rw [hname]
  exact r.filled_ne_pascal hpascal hword

/-- Every controller looks a resource up through the class, and keeps it under the name of the model. -/
theorem lookup_mem_constants (r : Resource) :
    ⟨r.model, ("await" : Text) ++ ' ' :: (ModelName.pascal r.model ++ (".findById(req.params.id)" : Text))⟩ ∈
      constants (r.planned .controller).content := by
  have huses := (r.family.boilerplate_imports (Or.inl rfl)).1
  have hsign : Text.ofString "=" = ['='] := rfl
  have hwords : Text.splitOn ' ' (lookupLine.filled r.slotText) = List.replicate 8 [] ++
      [("const" : Text), r.model, ['='], ("await" : Text),
        ModelName.pascal r.model ++ (".findById(req.params.id)" : Text)] := by
    have hline : lookupLine.uses Slot.names = true := rfl
    rw [Template.splitOn_filled hline (r.notMem_slotText (by decide) (by decide)), lookupLine_pieces,
      List.map_append, List.map_replicate]
    simp only [List.map_cons, List.map_nil, Template.filled_slot, Template.filled_spelled, Template.filled_text,
      Template.filled_nil, hsign, Text.ofString_eq_toList, List.append_nil, slotText]
  have hconstant : constant? (lookupLine.filled r.slotText) = some
      ⟨r.model, ("await" : Text) ++ ' ' :: (ModelName.pascal r.model ++ (".findById(req.params.id)" : Text))⟩ := by
    rw [constant?_eq_some hwords, List.intercalate_cons_cons, List.intercalate_singleton, List.append_assoc,
      List.singleton_append]
  rw [constants, planned, Template.splitOn_filled_newline huses r.newline_notMem_slotText, List.filterMap_map,
    List.mem_filterMap]
  refine ⟨_, r.family.lookupLine_mem, ?_⟩
  rw [Function.comp_apply, Template.filled_spelled, hconstant]

theorem defaultImport?_importLine (r : Resource) :
    defaultImport? ((r.family.importLine .model).filled r.slotText) = some (ModelName.pascal r.model) := by
  have hspace : ' ' ∉ ModelName.pascal r.model :=
    r.notMem_slotText (by decide) (by decide) .modelPascal (by decide)
  have hfrom : (" from" : Text) = ' ' :: ("from" : Text) := rfl
  have hname : (r.family.importedNames .model).filled r.slotText = ModelName.pascal r.model := List.append_nil _
  have hline : (r.family.importLine .model).filled r.slotText = ("import" : Text) ++ ' ' ::
      (ModelName.pascal r.model ++ ' ' :: (("from" : Text) ++ ' ' :: '"' :: (r.importPath .model ++ ['"']))) := by
    rw [filled_importLine, hname, hfrom]
    simp only [List.append_assoc, List.cons_append]
  have hwords : Text.splitOn ' ' ((r.family.importLine .model).filled r.slotText) =
      ("import" : Text) :: ModelName.pascal r.model :: ("from" : Text) ::
        Text.splitOn ' ' ('"' :: (r.importPath .model ++ ['"'])) := by
    rw [hline, Text.splitOn_append, Text.splitOn_append, Text.splitOn_append, Text.splitOn_of_notMem ' ' _ hspace]
    rfl
  rw [defaultImport?, hwords]
  exact if_pos rfl

theorem readImports_model (r : Resource) :
    readImports defaultImport? (r.importPath .model) (r.planned .controller).content =
      [ModelName.pascal r.model] := by
  have hmem : Artifact.model ∈ r.family.importedBy .controller := List.mem_cons_self
  exact r.readImports_eq (Or.inl rfl) hmem r.defaultImport?_importLine

/-- A resource whose model is its own capital has a constant that reads itself. -/
theorem not_keepsClass (r : Resource) (hpascal : ModelName.pascal r.model = r.model) :
    ¬KeepsClass (ModelName.pascal r.model) (r.planned .controller).content := by
  intro hkeeps
  refine hkeeps _ r.lookup_mem_constants hpascal.symm ⟨("await" : Text), _, rfl, Or.inl ?_⟩
  have hcall : (".findById(req.params.id)" : Text) = '.' :: ("findById(req.params.id)" : Text) := rfl
  rw [hcall, List.head?_cons]

/-- **The class of a model.** A controller imports the class under the model with a capital. None of its constants
reads itself for the class exactly if the capital changes the model, that is, if the first character of the model
is not its own upper-case form; and then no constant has the name of the class at all. -/
theorem keepsClass_iff (r : Resource) :
    ∃ files controller, r.plan = .ok files ∧
      files.filter (fun file => file.artifact = .controller) = [controller] ∧
      readImports defaultImport? (r.importPath .model) controller.content = [ModelName.pascal r.model] ∧
      ModelName.pascal r.model ≠ ModelName.plural r.model ∧
      (KeepsClass (ModelName.pascal r.model) controller.content ↔ ModelName.pascal r.model ≠ r.model) ∧
      (ModelName.pascal r.model ≠ r.model →
        ∀ constant ∈ constants controller.content, constant.name ≠ ModelName.pascal r.model) ∧
      (ModelName.pascal r.model = r.model ↔ ∀ c ∈ r.model.head?, upperCase c = [c]) := by
  refine ⟨_, r.planned .controller, r.plan_eq, r.filter_planned (Or.inl rfl), r.readImports_model,
    pascal_ne_plural r.model, ⟨?_, ?_⟩, ?_, r.pascal_eq_iff⟩
  · exact fun hkeeps hpascal => r.not_keepsClass hpascal hkeeps
  · exact fun hpascal constant hmem hname => absurd hname (r.constant_ne_pascal hpascal hmem)
  · exact fun hpascal constant => r.constant_ne_pascal hpascal

/-- A model whose name begins with a capital. -/
theorem not_keepsClass_user : ∃ r files controller, ofInput "User" [] .model {} = .ok r ∧ r.plan = .ok files ∧
    controller ∈ files ∧ controller.artifact = .controller ∧
      readImports defaultImport? (r.importPath .model) controller.content = [ModelName.pascal r.model] ∧
      ¬KeepsClass (ModelName.pascal r.model) controller.content := by
  have hname : isModelName "User" = true := rfl
  have hpascal : ModelName.pascal ("User" : Text) = ("User" : Text) := by decide +kernel
  have hmem : Artifact.controller ∈ Family.model.artifacts := by decide
  exact ⟨byDefault "User" .model hname, _, (byDefault "User" .model hname).planned .controller, rfl, plan_eq _,
    List.mem_map_of_mem hmem, rfl, readImports_model _, not_keepsClass _ hpascal⟩

end Resource

end CrudScaffold
