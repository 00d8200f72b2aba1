import CrudScaffold.Proofs.FieldSpec
import CrudScaffold.Proofs.Plan

set_option autoImplicit false

/-! # What a schema tells

The schema that is generated for a model tells the name of the model and its fields, in their order
(`Resource.told_by_schema`): between texts that are the same for all models of a family stand the name,
which ends at the first space, and the block of the fields. -/

namespace CrudScaffold

open FieldSpec

/-- The text between the name of a model and its fields, after the word that the name begins. -/
def schemaOpening : Text := "= new mongoose.Schema(\x7b\n"

/-- What the template of a schema is made of. -/
structure SchemaParts (t before after : Template) : Prop where
  eq : t = before ++ (.slot .modelName :: .text (Text.ofString "Schema = new mongoose.Schema(\x7b") ::
    .text ['\n'] :: .slot .schemaFields :: after)
  uses_before : before.uses [] = true
  uses_after : after.uses [.modelName, .modelPascal] = true

theorem exists_schemaParts (family : Family) :
    ∃ before after, SchemaParts (family.boilerplate .model) before after := by
  have hplain : SchemaParts Boilerplate.schema (Boilerplate.schema.take 4)
      (Boilerplate.schema.drop 8) := ⟨rfl, rfl, rfl⟩
  have huser : SchemaParts Boilerplate.userSchema (Boilerplate.userSchema.take 6)
      (Boilerplate.userSchema.drop 10) := ⟨rfl, rfl, rfl⟩
  cases family with
  | model => exact ⟨_, _, hplain⟩
  | upload => exact ⟨_, _, hplain⟩
  | user => exact ⟨_, _, huser⟩

/-- Where the name and the fields stand in a filled schema. -/
theorem SchemaParts.filled_eq {t before after : Template} (h : SchemaParts t before after)
    (value : Slot → Text) : t.filled value =
      before.filled value ++ ((value .modelName ++ ("Schema" : Text)) ++
        ' ' :: (schemaOpening ++ (value .schemaFields ++ after.filled value))) := by
  have hopening : Text.ofString "Schema = new mongoose.Schema(\x7b" ++ ['\n'] =
      ("Schema" : Text) ++ ' ' :: schemaOpening := by decide +kernel
  rw [h.eq, Template.filled_append, Template.filled_slot, Template.filled_text, Template.filled_text,
    Template.filled_slot, ← List.append_assoc (Text.ofString _), hopening]
  simp

namespace Resource

variable {r r' : Resource}

/-- Schemas with the same text are about models of the same name, with the same block of fields. -/
theorem slotText_of_filled_schema (hfamily : r.family = r'.family)
    (h : (r.family.boilerplate .model).filled r.slotText =
      (r'.family.boilerplate .model).filled r'.slotText) :
    r.model = r'.model ∧ r.slotText .schemaFields = r'.slotText .schemaFields := by
  obtain ⟨before, after, hparts⟩ := exists_schemaParts r.family
  have hbefore : before.filled r.slotText = before.filled r'.slotText :=
    Template.filled_congr hparts.uses_before (by simp)
  rw [← hfamily, hparts.filled_eq, hparts.filled_eq, hbefore] at h
  have hrest := List.append_cancel_left h
  -- The word that the name begins ends at the first space.
  have hword : ∀ other : Resource, ' ' ∉ other.slotText .modelName ++ ("Schema" : Text) := by
    intro other hspace
    rcases List.mem_append.1 hspace with hspace | hspace
    · exact other.notMem_model_of_isBlank (by decide) hspace
    · simp at hspace
  have hcut := congrArg (Text.cut ' ') hrest
  rw [Text.cut_append ' ' _ _ (hword r), Text.cut_append ' ' _ _ (hword r')] at hcut
  obtain ⟨hname, htail⟩ := Prod.mk.inj hcut
  have hmodel : r.model = r'.model := List.append_cancel_right hname
  have hafter : after.filled r.slotText = after.filled r'.slotText := by
    refine Template.filled_congr hparts.uses_after ?_
    simp [slotText, hmodel]
  rw [hafter] at htail
  exact ⟨hmodel, List.append_cancel_right (List.append_cancel_left (Option.some.inj htail))⟩

variable {model model' : Text} {tokens tokens' : List Text} {family : Family}
  {settings settings' : Settings} {files files' : List PlannedFile} {file file' : PlannedFile}

theorem content_of_plan (hplan : r.plan = .ok files) (hfile : file ∈ files) :
    file.content = (r.family.boilerplate file.artifact).filled r.slotText := by
  obtain rfl := Except.ok.inj (r.plan_eq.symm.trans hplan)
  obtain ⟨artifact, -, rfl⟩ := List.mem_map.1 hfile
  rfl

theorem oneLine_shown_fields (h : ∀ token ∈ r.tokens, '\n' ∉ token) :
    ∀ field ∈ r.fields true, field.shown.OneLine := by
  intro field hfield
  obtain ⟨token, htoken, rfl⟩ := List.mem_map.1 hfield
  refine oneLine_shown_parse ?_
  rcases List.mem_append.1 htoken with hfixed | hasked
  · have hall : ∀ token ∈ r.family.fixedTokens, '\n' ∉ token := by
      cases r.family <;> decide +kernel
    exact hall token (by simpa using hfixed)
  · exact h token hasked

/-- **What a schema tells.** If the schemas of two resources of a family say the same, the resources
have the same name and, one by one, fields of the same name, type, requirement and default. -/
theorem told_by_schema (hr : ofInput model tokens family settings = .ok r)
    (hr' : ofInput model' tokens' family settings' = .ok r')
    (htokens : ∀ token ∈ tokens, '\n' ∉ token) (htokens' : ∀ token ∈ tokens', '\n' ∉ token)
    (hplan : r.plan = .ok files) (hplan' : r'.plan = .ok files')
    (hfile : file ∈ files) (hfile' : file' ∈ files') (hmodel : file.artifact = .model)
    (hmodel' : file'.artifact = .model) (h : file.content = file'.content) :
    model = model' ∧
      (tokens.filter fun token => !token.isBlank).map (fun token => (parse token).shown) =
        (tokens'.filter fun token => !token.isBlank).map fun token => (parse token).shown := by
  obtain ⟨hf, -, rfl, ht⟩ := ofInput_eq_ok hr
  obtain ⟨hf', -, rfl, ht'⟩ := ofInput_eq_ok hr'
  rw [content_of_plan hplan hfile, content_of_plan hplan' hfile', hmodel, hmodel'] at h
  obtain ⟨hname, hblock⟩ := slotText_of_filled_schema (hf.trans hf'.symm) h
  refine ⟨hname, ?_⟩
  have hline : ∀ token ∈ r.tokens, '\n' ∉ token := fun token htoken =>
    htokens token (List.mem_filter.1 (ht ▸ htoken)).1
  have hline' : ∀ token ∈ r'.tokens, '\n' ∉ token := fun token htoken =>
    htokens' token (List.mem_filter.1 (ht' ▸ htoken)).1
  rw [slotText, slotText, hf, hf'] at hblock
  have hshown := shown_of_schemaBlock (oneLine_shown_fields hline) (oneLine_shown_fields hline') hblock
  -- The fields that the family has in any case are the same on both sides.
  rw [fields, fields, hf, hf', List.map_map, List.map_map, List.map_append, List.map_append] at hshown
  rw [← ht, ← ht']
  exact List.append_cancel_left hshown

/-- A resource with a field that is given by its name alone. -/
def brief : Resource where
  model := "post"
  tokens := ["title"]
  family := .model
  settings := {}
  isModelName_model := by decide +kernel
  isBlank_token := by decide +kernel

/-- The same field spelled out, in another project. -/
def wordy : Resource where
  model := "post"
  tokens := ["title:String:no"]
  family := .model
  settings := { root := ⟨"/srv"⟩ }
  isModelName_model := by decide +kernel
  isBlank_token := by decide +kernel

theorem told_by_schema_brief_wordy :
    (ofInput "post" ["title", " "] .model {} = .ok brief ∧
      ofInput "post" ["title:String:no"] .model { root := ⟨"/srv"⟩ } = .ok wordy ∧
      (brief.planned .model).content = (wordy.planned .model).content) ∧
    ("post" : Text) = "post" ∧
      ((["title", " "] : List Text).filter fun token => !token.isBlank).map
          (fun token => (parse token).shown) =
        ((["title:String:no"] : List Text).filter fun token => !token.isBlank).map
          fun token => (parse token).shown := by
  have hcontent : (brief.planned .model).content = (wordy.planned .model).content := by
    decide +kernel
  refine ⟨⟨rfl, rfl, hcontent⟩, ?_⟩
  exact told_by_schema rfl rfl (by decide +kernel) (by decide +kernel) brief.plan_eq wordy.plan_eq
    List.mem_cons_self List.mem_cons_self rfl rfl hcontent

end Resource

end CrudScaffold
