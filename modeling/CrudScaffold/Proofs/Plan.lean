import CrudScaffold.Proofs.Boilerplate
import CrudScaffold.Resource

set_option autoImplicit false

/-! # Plans

Every resource has a plan, with one file for each artifact of its family, in their order
(`Resource.plan_eq`). What a file says is the source of its boilerplate with the texts of the resource
in the place of the marks (`Resource.plan_of_ofInput`). -/

namespace CrudScaffold

namespace Resource

variable {r : Resource} {artifact : Artifact} {files : List PlannedFile}

/-- The file that is planned for an artifact. -/
def planned (r : Resource) (artifact : Artifact) : PlannedFile where
  path := r.path artifact
  content := (r.family.boilerplate artifact).filled r.slotText
  artifact := artifact
  description := r.description artifact

/-- The context has a text for every slot, whatever the template. -/
theorem text_slot?_context (r : Resource) (slot : Slot) :
    (r.context.slot? slot).map ContextValue.text = some (r.slotText slot) := by
  cases slot <;> rfl

theorem planFile_eq (h : artifact ∈ r.family.artifacts) :
    r.planFile artifact = .ok (r.planned artifact) := by
  have hrender : r.family.render artifact r.context =
      .ok ((r.family.boilerplate artifact).filled r.slotText) := by
    rw [Family.render, if_pos h, Template.render, Template.fill,
      fillFrom_eq_filled r.slotText r.text_slot?_context]
    rfl
  rw [planFile, hrender]
  rfl

theorem mapM_planFile_eq (artifacts : List Artifact)
    (h : ∀ artifact ∈ artifacts, artifact ∈ r.family.artifacts) :
    artifacts.mapM r.planFile = .ok (artifacts.map r.planned) := by
  induction artifacts with
  | nil => rfl
  | cons artifact artifacts ih =>
    rw [List.forall_mem_cons] at h
    rw [List.mapM_cons, planFile_eq h.1, ih h.2]
    rfl

/-- **Plans.** One file for each artifact, in their order. -/
theorem plan_eq (r : Resource) : r.plan = .ok (r.family.artifacts.map r.planned) :=
  mapM_planFile_eq r.family.artifacts fun _ h => h

theorem exists_plan_eq_ok (r : Resource) : ∃ files, r.plan = .ok files := ⟨_, r.plan_eq⟩

/-- A resource has one controller and one router. -/
theorem filter_planned (r : Resource) (h : artifact = .controller ∨ artifact = .route) :
    (r.family.artifacts.map r.planned).filter (fun file => file.artifact = artifact) = [r.planned artifact] := by
  have honce : r.family.artifacts.filter (fun other => other = artifact) = [artifact] := by
    rcases h with rfl | rfl
    · cases r.family <;> rfl
    · cases r.family <;> rfl
  rw [List.filter_map]
  exact congrArg (List.map r.planned) honce

theorem plan_eq_ok (h : r.plan = .ok files) :
    files.map PlannedFile.artifact = r.family.artifacts ∧
      ∀ file ∈ files, file.path = r.path file.artifact := by
  obtain rfl := Except.ok.inj (r.plan_eq.symm.trans h)
  refine ⟨?_, fun file hfile => ?_⟩
  · rw [List.map_map]
    exact List.map_id _
  · obtain ⟨artifact, -, rfl⟩ := List.mem_map.1 hfile
    rfl

theorem notMem_model_of_isBlank (r : Resource) {c : Char} (hc : isBlank c = true) : c ∉ r.model := by
  have h := r.isModelName_model
  rw [isModelName, Bool.and_eq_true, List.all_eq_true] at h
  intro hmem
  simpa [hc] using h.2 c hmem

/-! ## The texts of the files -/

/-- The fields that a resource is asked for, after those that its family has in any case if these
are wanted. -/
def fieldsOf (family : Family) (tokens : List Text) (withFixed : Bool) : List FieldSpec :=
  ((if withFixed then family.fixedTokens else []) ++
    tokens.filter fun token => !token.isBlank).map FieldSpec.parse

/-- What stands for a slot in the files of a model. -/
def valueOf (model : Text) (tokens : List Text) (family : Family) : Slot → Text
  | .modelName => model
  | .modelPascal => model.capitalize
  | .modelPlural => model ++ ['s']
  | .schemaFields => FieldSpec.schemaBlock (fieldsOf family tokens true) family.usesPlaceholder
  | .createRules =>
    FieldSpec.ruleBlock .create (fieldsOf family tokens family.validatesFixed) family.usesPlaceholder
  | .updateRules =>
    FieldSpec.ruleBlock .update (fieldsOf family tokens family.validatesFixed) family.usesPlaceholder

variable {model : Text} {tokens : List Text} {family : Family} {settings : Settings}

theorem ofInput_eq_ok (h : ofInput model tokens family settings = .ok r) :
    r.family = family ∧ r.settings = settings ∧ r.model = model ∧
      r.tokens = tokens.filter fun token => !token.isBlank := by
  rw [ofInput] at h
  split at h
  · obtain rfl := Except.ok.inj h
    exact ⟨rfl, rfl, rfl, rfl⟩
  · simp at h

theorem slotText_eq (h : ofInput model tokens family settings = .ok r) :
    r.slotText = valueOf model tokens family := by
  obtain ⟨rfl, -, rfl, htokens⟩ := ofInput_eq_ok h
  funext slot
  cases slot <;> simp only [slotText, valueOf, fields, fieldsOf, htokens] <;> rfl

/-- **What the files say.** A resource that is accepted always has a plan: for each artifact the
source of its boilerplate, with every mark replaced in one pass by what stands for its slot. -/
theorem plan_of_ofInput (h : ofInput model tokens family settings = .ok r) :
    r.plan = .ok (family.artifacts.map fun artifact =>
      { path := r.path artifact
        content := substitute (valueOf model tokens family) (family.boilerplate artifact).source
        artifact := artifact
        description := r.description artifact }) := by
  obtain ⟨hfamily, -⟩ := ofInput_eq_ok h
  rw [plan_eq, hfamily]
  refine congrArg Except.ok (List.map_congr_left fun artifact _ => ?_)
  rw [planned, hfamily, ← slotText_eq h, substitute_source _ (isUnambiguous_boilerplate family artifact)]

/-- A resource whose name and fields look like marks. -/
def disguised : Resource where
  model := "\x7b\x7bmodel_pascal\x7d\x7d"
  tokens := ["\x7b\x7bmodel_name\x7d\x7d:\"<b>\":TRUE:&'", "\x7b\x7b"]
  family := .upload
  settings := {}
  isModelName_model := by decide +kernel
  isBlank_token := by decide +kernel

theorem plan_of_ofInput_disguised :
    ofInput disguised.model ("  " :: disguised.tokens) .upload {} = .ok disguised ∧
      disguised.plan = .ok (Family.upload.artifacts.map fun artifact =>
        { path := disguised.path artifact
          content := substitute (valueOf disguised.model ("  " :: disguised.tokens) .upload)
            (Family.upload.boilerplate artifact).source
          artifact := artifact
          description := disguised.description artifact }) :=
  ⟨rfl, plan_of_ofInput rfl⟩

/-! ## Samples -/

theorem isBlank_of_mem_nil : ∀ token ∈ ([] : List Text), token.isBlank = false := by simp

theorem isModelName_user : isModelName "user" = true := rfl

theorem isModelName_photo : isModelName "photo" = true := rfl

theorem isModelName_song : isModelName "song" = true := rfl

/-- A resource without fields in a project with the settings that a project begins with. -/
def byDefault (model : Text) (family : Family) (h : isModelName model = true) : Resource where
  model := model
  tokens := []
  family := family
  settings := {}
  isModelName_model := h
  isBlank_token := isBlank_of_mem_nil

end Resource

end CrudScaffold
