import CrudScaffold.Proofs.Path
import CrudScaffold.Proofs.Plan

set_option autoImplicit false

/-! # Targets

Where the files of a resource go. Under the same settings, two targets with the same components
belong to the same artifact and, unless all models share it, to the same model
(`Resource.targetPath_inj`). -/

namespace CrudScaffold

namespace Artifact

theorem label_spec (artifact : Artifact) :
    4 ≤ artifact.label.length ∧ '.' ∉ artifact.label ∧ '/' ∉ artifact.label := by
  cases artifact <;> decide +kernel

theorem sharedStem?_spec {artifact : Artifact} {stem : Text} (h : artifact.sharedStem? = some stem) :
    4 ≤ stem.length ∧ '.' ∉ stem ∧ '/' ∉ stem := by
  cases artifact <;> simp only [sharedStem?, reduceCtorEq, Option.some.injEq] at h <;> subst h <;>
    decide +kernel

theorem label_inj {a b : Artifact} (h : a.label = b.label) (ha : a.sharedStem? = none)
    (hb : b.sharedStem? = none) : a = b := by
  revert h ha hb
  cases a <;> cases b <;> decide +kernel

theorem sharedStem?_inj {a b : Artifact} (h : a.sharedStem? = b.sharedStem?)
    (ha : a.sharedStem? ≠ none) : a = b := by
  revert h ha
  cases a <;> cases b <;> decide +kernel

end Artifact

namespace Resource

variable {r r' : Resource} {a b artifact : Artifact}

/-! ## Names of files -/

/-- The name of the file of an artifact, up to the point before the extension. -/
def fileKey (r : Resource) (artifact : Artifact) : Text :=
  match artifact.sharedStem? with
  | some stem => stem
  | none => r.model ++ '.' :: artifact.label

theorem fileName_eq (r : Resource) (artifact : Artifact) :
    r.fileName artifact = r.fileKey artifact ++ '.' :: r.settings.extension := by
  rw [fileName, fileKey]
  cases artifact.sharedStem? with
  | some stem => rfl
  | none => simp [Settings.modelFileName]

theorem slash_notMem_model (r : Resource) : '/' ∉ r.model := by
  have h := r.isModelName_model
  rw [isModelName, Bool.and_eq_true, List.all_eq_true] at h
  intro hslash
  simpa using h.2 '/' hslash

theorem slash_notMem_fileKey (r : Resource) (artifact : Artifact) : '/' ∉ r.fileKey artifact := by
  rw [fileKey]
  cases h : artifact.sharedStem? with
  | some stem => exact (Artifact.sharedStem?_spec h).2.2
  | none => simp [slash_notMem_model, artifact.label_spec.2.2]

theorem four_le_length_fileKey (r : Resource) (artifact : Artifact) :
    4 ≤ (r.fileKey artifact).length := by
  rw [fileKey]
  cases h : artifact.sharedStem? with
  | some stem => exact (Artifact.sharedStem?_spec h).1
  | none =>
    have := artifact.label_spec.1
    simp only [List.length_append, List.length_cons]
    omega

/-- The label of an artifact is what follows the last point of a key. -/
theorem fileKey_inj (h : r.fileKey a = r'.fileKey b) :
    a = b ∧ (a.sharedStem? = none → r.model = r'.model) := by
  simp only [fileKey] at h
  cases ha : a.sharedStem? with
  | some stem =>
    cases hb : b.sharedStem? with
    | some stem' =>
      rw [ha, hb] at h
      have hsame : a.sharedStem? = b.sharedStem? := by rw [ha, hb, show stem = stem' from h]
      exact ⟨Artifact.sharedStem?_inj hsame (by simp [ha]), by simp⟩
    | none =>
      rw [ha, hb] at h
      exact absurd (show stem = _ from h) fun e => (Artifact.sharedStem?_spec ha).2.1 (by simp [e])
  | none =>
    cases hb : b.sharedStem? with
    | some stem' =>
      rw [ha, hb] at h
      exact absurd (show _ = stem' from h) fun e => (Artifact.sharedStem?_spec hb).2.1 (by simp [← e])
    | none =>
      rw [ha, hb] at h
      have hcut : ∀ (model label : Text), '.' ∉ label →
          Text.cut '.' (model ++ '.' :: label).reverse = (label.reverse, some model.reverse) := by
        intro model label hlabel
        simpa using Text.cut_append '.' label.reverse model.reverse (by simpa using hlabel)
      have hparts := hcut r.model a.label a.label_spec.2.1
      rw [show r.model ++ '.' :: a.label = r'.model ++ '.' :: b.label from h,
        hcut r'.model b.label b.label_spec.2.1] at hparts
      simp only [Prod.mk.injEq, List.reverse_inj, Option.some.injEq] at hparts
      exact ⟨Artifact.label_inj hparts.1.symm ha hb, fun _ => hparts.2.symm⟩

/-- The first piece of the name of a file. -/
def fileHead (r : Resource) (artifact : Artifact) : Text :=
  r.fileKey artifact ++ '.' :: (Text.splitOn '/' r.settings.extension).headD []

theorem pieces_fileName (r : Resource) (artifact : Artifact) :
    (⟨r.fileName artifact⟩ : Path).pieces =
      r.fileHead artifact :: (Text.splitOn '/' r.settings.extension).tail := by
  have hslash : '/' ∉ r.fileKey artifact ++ ['.'] := by simp [slash_notMem_fileKey]
  have hsplit := Text.splitOn_append_of_notMem '/' _ r.settings.extension hslash
  rw [Path.pieces, fileName_eq, fileHead]
  simpa using hsplit

theorem five_le_length_fileHead (r : Resource) (artifact : Artifact) :
    5 ≤ (r.fileHead artifact).length := by
  have := r.four_le_length_fileKey artifact
  simp only [fileHead, List.length_append, List.length_cons]
  omega

theorem isSkipped_fileHead (r : Resource) (artifact : Artifact) :
    Path.isSkipped (r.fileHead artifact) = false := by
  have hlength := r.five_le_length_fileHead artifact
  exact Path.isSkipped_of_two_le_length (by omega)

/-- The name of a file goes down by its first piece and by the rest of the extension. -/
theorem moves_fileName (r : Resource) (artifact : Artifact) :
    (⟨r.fileName artifact⟩ : Path).moves =
      r.fileHead artifact ::
        (Text.splitOn '/' r.settings.extension).tail.filter fun piece => !Path.isSkipped piece := by
  rw [Path.moves, pieces_fileName, List.filter_cons, if_pos (by simp [isSkipped_fileHead])]

theorem lead_fileName (r : Resource) (artifact : Artifact) :
    (⟨r.fileName artifact⟩ : Path).lead = [] := by
  have hlength := r.five_le_length_fileHead artifact
  have habs : (⟨r.fileName artifact⟩ : Path).isAbsolute = false := by
    cases h : (⟨r.fileName artifact⟩ : Path).isAbsolute with
    | false => rfl
    | true =>
      have hhead := Path.head?_pieces_of_isAbsolute h
      rw [pieces_fileName, List.head?_cons, Option.some.injEq] at hhead
      simp [hhead] at hlength
  have hdot : r.fileHead artifact ≠ ['.'] := by
    intro h
    simp [h] at hlength
  simp [Path.lead, habs, pieces_fileName, hdot]

/-! ## Targets -/

/-- Where the file of an artifact goes. -/
def targetPath (r : Resource) (artifact : Artifact) : Path :=
  r.settings.root.join (r.path artifact)

theorem components_targetPath (r : Resource) (artifact : Artifact) :
    (r.targetPath artifact).components =
      (r.settings.root.join (r.directory artifact)).components ++
        (⟨r.fileName artifact⟩ : Path).moves.map Component.ofPiece := by
  have hlead := r.lead_fileName artifact
  rw [targetPath, path, Path.join_assoc _ _ _ (Path.isAbsolute_of_lead_eq_nil hlead),
    Path.components_join hlead]

/-- **Targets are told apart by their components.** Under the same settings, targets with the same
components are of the same artifact, and of the same model unless all models share it. -/
theorem targetPath_inj (hsettings : r.settings = r'.settings)
    (h : (r.targetPath a).components = (r'.targetPath b).components) :
    a = b ∧ (a.sharedStem? = none → r.model = r'.model) := by
  rw [components_targetPath, components_targetPath, moves_fileName, moves_fileName, ← hsettings] at h
  -- The names of both files go down equally far, so the directories are left aside.
  have hnames := (List.append_inj' h (by simp)).2
  rw [List.map_cons, List.map_cons, List.cons.injEq] at hnames
  have hhead := Component.ofPiece_inj hnames.1
  rw [fileHead, fileHead, ← hsettings] at hhead
  exact fileKey_inj (List.append_cancel_right hhead)

/-- A target depends on the model only if its artifact is not shared. -/
theorem targetPath_congr (hsettings : r.settings = r'.settings)
    (hmodel : artifact.sharedStem? = none → r.model = r'.model) :
    r.targetPath artifact = r'.targetPath artifact := by
  have hkey : r.fileKey artifact = r'.fileKey artifact := by
    rw [fileKey, fileKey]
    cases h : artifact.sharedStem? with
    | some stem => rfl
    | none => rw [hmodel h]
  have hdirectory : r.directory artifact = r'.directory artifact := by
    cases artifact <;> simp only [directory, hsettings]
  rw [targetPath, targetPath, path, path, hdirectory, fileName_eq, fileName_eq, hkey, hsettings]

/-- Under the same settings, targets with the same components are the same path. -/
theorem targetPath_eq_of_components (hsettings : r.settings = r'.settings)
    (h : (r.targetPath a).components = (r'.targetPath b).components) :
    r.targetPath a = r'.targetPath b := by
  obtain ⟨rfl, hmodel⟩ := targetPath_inj hsettings h
  exact targetPath_congr hsettings hmodel

/-! ## Names that are components -/

theorem five_le_length_fileName (r : Resource) (artifact : Artifact) :
    5 ≤ (r.fileName artifact).length := by
  have := r.four_le_length_fileKey artifact
  rw [fileName_eq, List.length_append, List.length_cons]
  omega

/-- An extension without slashes leaves the name of a file one component. -/
theorem components_path (h : '/' ∉ r.settings.extension) (artifact : Artifact) :
    (r.path artifact).components =
      (r.directory artifact).components ++ [.name (r.fileName artifact)] := by
  have hmoves : (⟨r.fileName artifact⟩ : Path).moves = [r.fileName artifact] := by
    rw [moves_fileName, Text.splitOn_of_notMem '/' _ h, fileHead, fileName_eq,
      Text.splitOn_of_notMem '/' _ h]
    rfl
  have hlength := r.five_le_length_fileName artifact
  rw [path, Path.components_join (r.lead_fileName artifact), hmoves, List.map_singleton,
    Component.ofPiece_eq_name (by omega)]

/-! ## The targets of a plan -/

theorem nodup_artifacts (family : Family) : family.artifacts.Nodup := by
  cases family <;> decide

/-- **Where files go.** Under the same settings, whatever these are, two targets have the same components
exactly if they are of the same artifact and, unless all models share it, of the same model. So no two
files of a plan go to one place. Unless the extension has slashes, a file is in the directory of its
artifact, under its name. -/
theorem targets_apart (hsettings : r.settings = r'.settings) :
    (∀ a b, (r.targetPath a).components = (r'.targetPath b).components ↔
      a = b ∧ (a.sharedStem? = none → r.model = r'.model)) ∧
    (∃ files, r.plan = .ok files ∧ files.map PlannedFile.artifact = r.family.artifacts ∧
      (files.map fun file => (r.settings.root.join file.path).components).Nodup) ∧
    ('/' ∉ r.settings.extension → ∀ artifact,
      (r.path artifact).components =
          (r.directory artifact).components ++ [.name (r.fileName artifact)] ∧
        r.fileName artifact ≠ ['.'] ∧ r.fileName artifact ≠ ['.', '.']) := by
  refine ⟨fun a b => ⟨targetPath_inj hsettings, ?_⟩, ⟨_, r.plan_eq, ?_, ?_⟩, fun hslash artifact => ?_⟩
  · rintro ⟨rfl, hmodel⟩
    rw [targetPath_congr hsettings hmodel]
  · exact (plan_eq_ok r.plan_eq).1
  · rw [List.map_map, List.Nodup, List.pairwise_map]
    exact (nodup_artifacts r.family).imp fun hne h => hne (targetPath_inj rfl h).1
  · have hlength := r.five_le_length_fileName artifact
    refine ⟨components_path hslash artifact, ?_, ?_⟩ <;> intro hname <;> simp [hname] at hlength

/-- Two resources in one directory, whose names and extension look like labels. -/
def crowded (model : Text) (h : isModelName model = true) : Resource where
  model := model
  tokens := []
  family := .user
  settings :=
    { root := ⟨"/srv/./app/"⟩
      extension := "model/../js"
      layout := ⟨⟨"."⟩, ⟨""⟩, ⟨"./"⟩, ⟨".//."⟩, ⟨""⟩⟩ }
  isModelName_model := h
  isBlank_token := isBlank_of_mem_nil

theorem targets_apart_crowded :
    (crowded "user" rfl).settings = (crowded "user.model" rfl).settings ∧
      ((crowded "user" rfl).targetPath .model).components ≠
        ((crowded "user.model" rfl).targetPath .route).components ∧
      ((crowded "user" rfl).targetPath .model).components ≠
        ((crowded "user.model" rfl).targetPath .model).components ∧
      ((crowded "user" rfl).targetPath .authMiddleware).components =
        ((crowded "user.model" rfl).targetPath .authMiddleware).components := by
  have hsettings : (crowded "user" rfl).settings = (crowded "user.model" rfl).settings := rfl
  obtain ⟨hiff, -⟩ := targets_apart hsettings
  refine ⟨hsettings, ?_, ?_, (hiff _ _).2 ⟨rfl, by simp [Artifact.sharedStem?]⟩⟩
  · intro h
    exact absurd ((hiff _ _).1 h).1 (by decide)
  · intro h
    exact absurd (((hiff _ _).1 h).2 rfl) (by decide)

end Resource

/-! ## Targets without two dots -/

/-- The paths that settings are made of. An extension may hold slashes, so it counts as one. -/
def Settings.paths (settings : Settings) : List Path :=
  [settings.root, settings.layout.models, settings.layout.validations, settings.layout.controllers,
    settings.layout.routes, settings.layout.middlewares, ⟨settings.extension⟩]

/-- Whether nothing in the settings goes up. -/
def Settings.NeverUp (settings : Settings) : Prop :=
  ∀ p ∈ settings.paths, Component.up ∉ p.components

instance (settings : Settings) : Decidable settings.NeverUp :=
  inferInstanceAs (Decidable (∀ p ∈ settings.paths, Component.up ∉ p.components))

namespace Resource

variable {r : Resource}

theorem directory_mem_paths (r : Resource) (artifact : Artifact) :
    r.directory artifact ∈ r.settings.paths := by
  cases artifact <;> simp [directory, Settings.paths]

theorem up_notMem_moves_fileName (h : r.settings.NeverUp) (artifact : Artifact) :
    ['.', '.'] ∉ (⟨r.fileName artifact⟩ : Path).moves := by
  rw [moves_fileName, List.mem_cons, not_or]
  constructor
  · intro hhead
    have hlength := r.five_le_length_fileHead artifact
    simp [← hhead] at hlength
  · intro hup
    obtain ⟨hpiece, hmove⟩ := List.mem_filter.1 hup
    exact h ⟨r.settings.extension⟩ (by simp [Settings.paths])
      (Path.up_mem_components.2 (List.mem_filter.2 ⟨List.mem_of_mem_tail hpiece, hmove⟩))

/-- Targets do not go up where the settings do not. -/
theorem up_notMem_moves_targetPath (h : r.settings.NeverUp) (artifact : Artifact) :
    ['.', '.'] ∉ (r.targetPath artifact).moves := by
  have hjoin : ∀ {a b : Path}, ['.', '.'] ∉ a.moves → ['.', '.'] ∉ b.moves →
      ['.', '.'] ∉ (a.join b).moves := by
    intro a b ha hb
    by_cases habs : b.isAbsolute = true
    · rwa [Path.join_of_isAbsolute a b habs]
    · rw [Path.moves_join (by simpa using habs), List.mem_append, not_or]
      exact ⟨ha, hb⟩
  have hpart : ∀ p ∈ r.settings.paths, ['.', '.'] ∉ p.moves :=
    fun p hp hup => h p hp (Path.up_mem_components.2 hup)
  exact hjoin (hpart _ (by simp [Settings.paths]))
    (hjoin (hpart _ (r.directory_mem_paths artifact)) (up_notMem_moves_fileName h artifact))

end Resource

end CrudScaffold
