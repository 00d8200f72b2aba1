import CrudScaffold.Proofs.Imports

set_option autoImplicit false

/-! # Where imports lead

An import is resolved against the directory of the file that it is in, by its text alone: two dots cancel
the name before them, and nothing is looked up. What the controller and the router of a resource import
is planned with them exactly if the extension, unless it has slashes, is `js` and every directory that
they import from is beside theirs, under the name that it has when a project begins
(`Resource.importsResolve_iff`). Any other settings move the files and leave the imports behind. -/

namespace CrudScaffold

/-! ## Resolving without a look at the disk -/

/-- A component after those before it, of which the last one comes first. -/
def Component.push (before : List Component) : Component → List Component
  | .root => [.root]
  | .here => before
  | .name text => .name text :: before
  | .up =>
    match before with
    | .name _ :: above => above
    | .root :: _ => before
    | _ => .up :: before

namespace Path

/-- The components of a path, the last one first, after two dots have cancelled the names before
them. -/
def reduced (p : Path) : List Component := p.components.foldl Component.push []

/-- The components of a relative path from the directory that a file is in. -/
def resolve (file relative : Path) : List Component :=
  relative.components.foldl Component.push (file.components.dropLast.foldl Component.push [])

/-- The components of a name in the directory that a directory is in. -/
def beside (directory : Path) (name : Text) : List Component :=
  .name name :: Component.push directory.reduced .up

variable {directory file : Path} {name : Text}

theorem reduced_eq (h : file.components = directory.components ++ [.name name]) :
    file.reduced = .name name :: directory.reduced := by
  rw [reduced, h, List.foldl_append]
  rfl

theorem resolve_eq (h : file.components = directory.components ++ [.name name]) {home key : Text}
    {relative : Path} (hrelative : relative.components = [.up, .name home, .name key]) :
    file.resolve relative = .name key :: directory.beside home := by
  rw [resolve, h, List.dropLast_concat, hrelative]
  rfl

end Path

/-! ## Imports among planned files -/

/-- Whether all that the controllers and the routers among some files import are other ones of the
files. -/
def ImportsResolve (files : List PlannedFile) : Prop :=
  ∀ file ∈ files, file.artifact = .controller ∨ file.artifact = .route →
    ∀ relative ∈ relativeImports file.content,
      ∃ other ∈ files,
        other.artifact ≠ file.artifact ∧ other.path.reduced = file.path.resolve ⟨relative⟩

instance (files : List PlannedFile) : Decidable (ImportsResolve files) :=
  inferInstanceAs (Decidable (∀ file ∈ files, _ → ∀ relative ∈ relativeImports file.content,
    ∃ other ∈ files, _))

namespace Family

variable {family : Family} {artifact imported : Artifact}

theorem importedBy_spec (h : imported ∈ family.importedBy artifact) :
    (artifact = .controller ∨ artifact = .route) ∧ artifact ∈ family.artifacts ∧
      imported ∈ family.artifacts ∧ imported ≠ artifact := by
  revert h
  cases family <;> cases artifact <;> cases imported <;> decide

/-- A family has at most one artifact that all models share. -/
theorem eq_of_sharedStem? {a b : Artifact} (ha : a ∈ family.artifacts) (hb : b ∈ family.artifacts)
    (ha' : a.sharedStem? ≠ none) (hb' : b.sharedStem? ≠ none) : a = b := by
  revert ha hb ha' hb'
  cases family <;> cases a <;> cases b <;> decide +kernel

end Family

namespace Resource

variable {r : Resource} {a b artifact imported : Artifact}

theorem components_importPath (r : Resource) (artifact : Artifact) :
    (⟨r.importPath artifact⟩ : Path).components =
      [.up, .name artifact.home, .name (r.importName artifact)] := by
  have hhome : '/' ∉ artifact.home ∧ 3 ≤ artifact.home.length := by cases artifact <;> decide +kernel
  have hname : '/' ∉ r.importName artifact := by simp [importName, slash_notMem_fileKey]
  have hlength : 3 ≤ (r.importName artifact).length := by
    have := r.four_le_length_fileKey artifact
    rw [importName, List.length_append]
    omega
  have hpieces : (⟨r.importPath artifact⟩ : Path).pieces =
      [['.', '.'], artifact.home, r.importName artifact] := by
    have htext : r.importPath artifact =
        ['.', '.'] ++ '/' :: (artifact.home ++ '/' :: r.importName artifact) := rfl
    rw [Path.pieces, htext, Text.splitOn_append, Text.splitOn_append,
      Text.splitOn_of_notMem '/' _ hhome.1, Text.splitOn_of_notMem '/' _ hname]
    rfl
  have hlead : (⟨r.importPath artifact⟩ : Path).lead = [] := by
    rw [Path.lead, hpieces]
    rfl
  have hmoves : (⟨r.importPath artifact⟩ : Path).moves =
      [['.', '.'], artifact.home, r.importName artifact] := by
    rw [Path.moves, hpieces, List.filter_eq_self]
    simp [Path.isSkipped_of_two_le_length, Nat.le_of_succ_le hhome.2, Nat.le_of_succ_le hlength]
  rw [Path.components_eq, hlead, hmoves, List.nil_append, List.map_cons, List.map_cons,
    List.map_singleton, Component.ofPiece_eq_name hhome.2, Component.ofPiece_eq_name hlength]
  rfl

/-- Where the import of an artifact leads. -/
theorem resolve_importPath (h : '/' ∉ r.settings.extension) (artifact imported : Artifact) :
    (r.path artifact).resolve ⟨r.importPath imported⟩ =
      .name (r.importName imported) :: (r.directory artifact).beside imported.home :=
  Path.resolve_eq (components_path h artifact) (r.components_importPath imported)

/-- A planned file is where an import leads if its name and its directory are. -/
theorem reduced_path_eq_iff (h : '/' ∉ r.settings.extension) :
    (r.path b).reduced = (r.path artifact).resolve ⟨r.importPath imported⟩ ↔
      r.fileName b = r.importName imported ∧
        (r.directory b).reduced = (r.directory artifact).beside imported.home := by
  rw [Path.reduced_eq (components_path h b), resolve_importPath h]
  simp

/-- A file of one model has the name under which it is imported only if the extension is `js`. -/
theorem extension_eq_of_fileName (hb : b.sharedStem? = none) (ha : a.sharedStem? = none)
    (h : r.fileName b = r.importName a) : r.settings.extension = ("js" : Text) := by
  rw [fileName_eq, importName, fileKey, fileKey, hb, ha] at h
  simp only [List.append_assoc, List.append_cancel_left_eq, List.cons_append, List.cons.injEq,
    true_and] at h
  have hcut := congrArg (Text.cut '.') h
  have hjs : (".js" : Text) = '.' :: ("js" : Text) := rfl
  rw [hjs, Text.cut_append '.' _ _ b.label_spec.2.1, Text.cut_append '.' _ _ a.label_spec.2.1] at hcut
  exact Option.some.inj (Prod.mk.inj hcut).2

/-- If the model and the validation are both found under their names, the extension is `js`: a file that
all models share can be one of them, but not both. -/
theorem extension_eq_of_imported {c d : Artifact} (hc : c ∈ r.family.artifacts)
    (hd : d ∈ r.family.artifacts) (hmodel : r.fileName c = r.importName .model)
    (hvalidation : r.fileName d = r.importName .validation) :
    r.settings.extension = ("js" : Text) := by
  by_cases hc' : c.sharedStem? = none
  · exact extension_eq_of_fileName hc' rfl hmodel
  by_cases hd' : d.sharedStem? = none
  · exact extension_eq_of_fileName hd' rfl hvalidation
  obtain rfl := Family.eq_of_sharedStem? hc hd hc' hd'
  have hkey : r.fileKey .model = r.fileKey .validation :=
    List.append_cancel_right (hmodel.symm.trans hvalidation)
  exact absurd (fileKey_inj hkey).1 (by decide)

/-- With the extension `js`, the file that is found under the name of an import is what is imported. -/
theorem fileName_eq_importName_iff (h : r.settings.extension = ("js" : Text)) :
    r.fileName b = r.importName imported ↔ b = imported := by
  have hname : r.fileName b = r.importName b := by
    rw [fileName_eq, h]
    rfl
  rw [hname]
  exact ⟨fun e => (fileKey_inj (List.append_cancel_right e)).1, fun e => by rw [e]⟩

/-- An import leads to a planned file exactly if there is an artifact with its path. -/
theorem importsResolve_planned_iff :
    ImportsResolve (r.family.artifacts.map r.planned) ↔
      ∀ artifact, ∀ imported ∈ r.family.importedBy artifact, ∃ b ∈ r.family.artifacts,
        b ≠ artifact ∧ (r.path b).reduced = (r.path artifact).resolve ⟨r.importPath imported⟩ := by
  unfold ImportsResolve
  constructor
  · intro h artifact imported himported
    obtain ⟨hkind, hartifact, -⟩ := Family.importedBy_spec himported
    obtain ⟨other, hother, hne, hpath⟩ := h (r.planned artifact) (List.mem_map_of_mem hartifact) hkind
      (r.importPath imported) (by rw [r.relativeImports_eq hkind]; exact List.mem_map_of_mem himported)
    obtain ⟨b, hb, rfl⟩ := List.mem_map.1 hother
    exact ⟨b, hb, hne, hpath⟩
  · intro h file hfile hkind relative hrelative
    obtain ⟨artifact, -, rfl⟩ := List.mem_map.1 hfile
    have hkind : artifact = .controller ∨ artifact = .route := hkind
    rw [r.relativeImports_eq hkind] at hrelative
    obtain ⟨imported, himported, rfl⟩ := List.mem_map.1 hrelative
    obtain ⟨b, hb, hne, hpath⟩ := h artifact imported himported
    exact ⟨r.planned b, List.mem_map_of_mem hb, hne, hpath⟩

/-- **Where imports lead.** All that the controller and the router of a resource import is planned with
them exactly if each path of an import, which the settings have no say in, leads to the path of another
artifact. If the extension has no slashes, that is so exactly if it is `js` and the directories lie beside
each other under their first names. -/
theorem importsResolve_iff (r : Resource) :
    ∃ files, r.plan = .ok files ∧
      (ImportsResolve files ↔
        ∀ artifact, ∀ imported ∈ r.family.importedBy artifact, ∃ b ∈ r.family.artifacts,
          b ≠ artifact ∧ (r.path b).reduced = (r.path artifact).resolve ⟨r.importPath imported⟩) ∧
      ('/' ∉ r.settings.extension →
        (ImportsResolve files ↔
          r.settings.extension = ("js" : Text) ∧
            ∀ artifact, ∀ imported ∈ r.family.importedBy artifact,
              (r.directory imported).reduced = (r.directory artifact).beside imported.home)) := by
  refine ⟨_, r.plan_eq, importsResolve_planned_iff, fun hslash => ?_⟩
  rw [importsResolve_planned_iff]
  simp only [reduced_path_eq_iff hslash]
  constructor
  · intro h
    obtain ⟨c, hc, -, hmodel, -⟩ := h .controller .model (by simp [Family.importedBy])
    obtain ⟨d, hd, -, hvalidation, -⟩ := h .controller .validation (by simp [Family.importedBy])
    have hext := extension_eq_of_imported hc hd hmodel hvalidation
    refine ⟨hext, fun artifact imported himported => ?_⟩
    obtain ⟨b, -, -, hname, hdirectory⟩ := h artifact imported himported
    -- Under this extension no other file has the name of the import.
    rwa [(fileName_eq_importName_iff hext).1 hname] at hdirectory
  · rintro ⟨hext, h⟩ artifact imported himported
    obtain ⟨-, -, hmem, hne⟩ := Family.importedBy_spec himported
    exact ⟨imported, hmem, hne, (fileName_eq_importName_iff hext).2 rfl, h artifact imported himported⟩

/-- An upload in a project whose directories lie beside each other, but are not written so. -/
def nested : Resource where
  model := "photo"
  tokens := []
  family := .upload
  settings :=
    { root := ⟨"/srv"⟩
      layout :=
        { models := ⟨"api/old/../models/"⟩
          validations := ⟨"./api//validations"⟩
          controllers := ⟨"api/controllers"⟩
          routes := ⟨"api/routes"⟩
          middlewares := ⟨"api/./middlewares"⟩ } }
  isModelName_model := isModelName_photo
  isBlank_token := isBlank_of_mem_nil

example : ImportsResolve (nested.family.artifacts.map nested.planned) := by decide +kernel

/-- A post in a project whose models are called schemas. -/
def renamed : Resource where
  model := "post"
  tokens := []
  family := .model
  settings := { layout := { models := ⟨"schemas"⟩ } }
  isModelName_model := rfl
  isBlank_token := isBlank_of_mem_nil

/-- A renamed directory of models leaves its imports behind. -/
theorem not_importsResolve_renamed :
    ∃ files, renamed.plan = .ok files ∧ ¬ImportsResolve files := by
  refine ⟨_, renamed.plan_eq, ?_⟩
  decide +kernel

end Resource

end CrudScaffold
