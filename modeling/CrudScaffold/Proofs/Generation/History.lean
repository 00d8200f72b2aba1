import CrudScaffold.Proofs.Generation.Effect
import CrudScaffold.Proofs.Generation.Frame
import CrudScaffold.Proofs.Target

set_option autoImplicit false

/-! # Histories of generations

Generations one after the other, from one current directory and under one set of settings, whatever
becomes of each. What one of them has written stays visible through all later ones, so those that
share a target with it are refused (`Generation.exclusive_history`). -/

namespace CrudScaffold

open FileTree Generation

/-! ## One generation -/

namespace Resource

variable {r r' : Resource} {t : FileTree} {cwd : Place} {artifact : Artifact}

/-- Whether two resources have a target in common. Targets are compared by their components. -/
def SharesTarget (r r' : Resource) : Prop :=
  ∃ a ∈ r.family.artifacts, ∃ b ∈ r'.family.artifacts,
    (r.targetPath a).components = (r'.targetPath b).components

/-- Generations for one model have the target of the model in common. -/
theorem sharesTarget_of_model (hsettings : r.settings = r'.settings) (hmodel : r.model = r'.model) :
    r.SharesTarget r' := by
  have hmem : ∀ family : Family, .model ∈ family.artifacts := by
    intro family
    cases family <;> simp [Family.artifacts]
  exact ⟨.model, hmem _, .model, hmem _,
    congrArg Path.components (targetPath_congr hsettings fun _ => hmodel)⟩

/-- Generations of one family have the file in common that all models share. -/
theorem sharesTarget_of_family (artifact : Artifact) (hsettings : r.settings = r'.settings)
    (hfamily : r.family = r'.family) (hartifact : artifact ∈ r.family.artifacts)
    (hshared : artifact.sharedStem? ≠ none) : r.SharesTarget r' :=
  ⟨artifact, hartifact, artifact, hfamily ▸ hartifact,
    congrArg Path.components (targetPath_congr hsettings fun h => absurd h hshared)⟩

theorem grows_generate (r : Resource) (t : FileTree) (cwd : Place) :
    t.Grows ((r.generate (FileTree.disk cwd)).run t).2 := by
  obtain ⟨files, hplan⟩ := r.exists_plan_eq_ok
  rw [run_generate_of_ok hplan]
  exact (growsBy_write r files t cwd).grows

/-- A generation that succeeds leaves something at each of its targets. -/
theorem exists?_targetPath_of_generate
    (h : ((r.generate (FileTree.disk cwd)).run t).1.2.isOk = true)
    (hartifact : artifact ∈ r.family.artifacts) :
    ((r.generate (FileTree.disk cwd)).run t).2.exists? cwd (r.targetPath artifact) = true := by
  rcases run_generate_cases r t cwd with
    ⟨failure, hfailure, -⟩ | ⟨files, t₁, written, failure?, hplan, -, hwrote, hresult⟩
  · rw [hfailure] at h
    cases h
  · rcases hresult with ⟨failure, -, hfailure⟩ | ⟨report, rfl, -, -⟩
    · rw [hfailure] at h
      cases h
    · obtain ⟨hartifacts, hpaths⟩ := plan_eq_ok hplan
      obtain ⟨file, hfile, rfl⟩ := List.mem_map.1 (hartifacts ▸ hartifact)
      obtain ⟨place, content, -, -, hloc⟩ := hwrote.locate_target (mem_targets.2 ⟨file, hfile, rfl⟩)
      rw [PlannedFile.path_target, hpaths file hfile] at hloc
      rw [targetPath, exists?, hloc]

/-- A generation of which something stands at a target is refused and changes nothing. -/
theorem generate_of_isOccupied (hartifact : artifact ∈ r.family.artifacts)
    (h : t.isOccupied cwd (r.targetPath artifact) = true) :
    (∃ a ∈ r.family.artifacts, ((r.generate (FileTree.disk cwd)).run t).1.2 =
      .error (.collision (r.targetPath a) r.model a.label)) ∧
    ((r.generate (FileTree.disk cwd)).run t).2 = t := by
  obtain ⟨files, hplan⟩ := r.exists_plan_eq_ok
  obtain ⟨hartifacts, hpaths⟩ := plan_eq_ok hplan
  rw [run_generate_of_ok hplan]
  rcases run_write_cases r files t cwd with ⟨target, events, hfirst, hrun⟩ | ⟨hfirst, -⟩
  · obtain ⟨file, hfile, rfl⟩ := mem_targets.1 (List.mem_of_find?_eq_some hfirst)
    rw [hrun]
    refine ⟨⟨file.artifact, hartifacts ▸ List.mem_map_of_mem hfile, ?_⟩, rfl⟩
    rw [targetPath, ← hpaths file hfile]
    rfl
  · obtain ⟨file, hfile, rfl⟩ := List.mem_map.1 (hartifacts ▸ hartifact)
    rw [targetPath, ← hpaths file hfile] at h
    rw [firstOccupied?, List.find?_eq_none] at hfirst
    exact absurd h (hfirst _ (mem_targets.2 ⟨file, hfile, rfl⟩))

end Resource

/-! ## Many generations -/

namespace Generation

/-- A generation in a history: for what, on which tree, how it ended and the tree it left behind. -/
structure Run where
  resource : Resource
  before : FileTree
  result : Except Failure (List PlannedFile × Report)
  after : FileTree

/-- Whether a run has delivered. -/
def Run.succeeded (run : Run) : Bool := run.result.isOk

/-- The generations for some resources one after the other. -/
def history (cwd : Place) : FileTree → List Resource → List Run
  | _, [] => []
  | t, r :: later =>
    let outcome := (r.generate (FileTree.disk cwd)).run t
    ⟨r, t, outcome.1.2, outcome.2⟩ :: history cwd outcome.2 later

variable {t : FileTree} {cwd : Place} {resources : List Resource} {run : Run}

theorem mem_history (h : run ∈ history cwd t resources) :
    run.resource ∈ resources ∧ t.Grows run.before ∧
      run.result = ((run.resource.generate (FileTree.disk cwd)).run run.before).1.2 ∧
      run.after = ((run.resource.generate (FileTree.disk cwd)).run run.before).2 := by
  induction resources generalizing t with
  | nil => simp [history] at h
  | cons r later ih =>
    rcases List.mem_cons.1 h with rfl | h
    · exact ⟨List.mem_cons_self, .refl t, rfl, rfl⟩
    · obtain ⟨hmem, hgrows, hrun⟩ := ih h
      exact ⟨List.mem_cons_of_mem _ hmem, (r.grows_generate t cwd).trans hgrows, hrun⟩

/-- Whether the target set of a run meets that of a run that has succeeded. -/
def Run.Blocks (earlier later : Run) : Prop :=
  earlier.succeeded = true ∧ earlier.resource.SharesTarget later.resource

/-- Whether a run is refused for one of its own targets, with the tree as it was. -/
def Run.IsRefused (run : Run) : Prop :=
  (∃ a ∈ run.resource.family.artifacts,
    run.result = .error (.collision (run.resource.targetPath a) run.resource.model a.label)) ∧
  run.after = run.before

/-- Whatever a run that succeeds has written is still there when a later run begins. -/
theorem pairwise_history {settings : Settings} (h : ∀ r ∈ resources, r.settings = settings) :
    (history cwd t resources).Pairwise fun earlier later =>
      earlier.Blocks later → later.IsRefused := by
  induction resources generalizing t with
  | nil => exact List.Pairwise.nil
  | cons r later ih =>
    refine List.pairwise_cons.2
      ⟨fun run hrun => ?_, ih fun other hother => h other (List.mem_cons_of_mem _ hother)⟩
    rintro ⟨hok, a, ha, b, hb, hcomponents⟩
    obtain ⟨hmem, hgrows, hresult, hafter⟩ := mem_history hrun
    have hsettings : r.settings = run.resource.settings :=
      (h r List.mem_cons_self).trans (h _ (List.mem_cons_of_mem _ hmem)).symm
    have hthere := hgrows.exists? (Resource.exists?_targetPath_of_generate hok ha)
    rw [Resource.targetPath_eq_of_components hsettings hcomponents] at hthere
    obtain ⟨hrefused, hsame⟩ := Resource.generate_of_isOccupied hb (isOccupied_of_exists? hthere)
    rw [← hresult] at hrefused
    exact ⟨hrefused, hafter.trans hsame⟩

theorem Run.IsRefused.succeeded_eq_false (h : run.IsRefused) : run.succeeded = false := by
  obtain ⟨⟨a, -, hresult⟩, -⟩ := h
  rw [Run.succeeded, hresult]
  rfl

/-- A property that excludes itself holds at most once. -/
theorem countP_le_one {α : Type} {p : α → Bool} {l : List α}
    (h : l.Pairwise fun a b => p a = true → p b = false) : l.countP p ≤ 1 := by
  induction h with
  | nil => simp
  | @cons a l ha _ ih =>
    rw [List.countP_cons]
    split
    · next hp =>
      have hnone : l.countP p = 0 := List.countP_eq_zero.2 fun b hb => by simp [ha b hb hp]
      omega
    · exact ih

/-- Whatever makes runs share a target holds of one run that succeeds at most. -/
theorem countP_succeeded_le_one {runs : List Run} (key : Run → Bool)
    (hapart : runs.Pairwise fun earlier later => earlier.succeeded = true → later.succeeded = true →
      ¬earlier.resource.SharesTarget later.resource)
    (hkey : ∀ a ∈ runs, ∀ b ∈ runs, key a = true → key b = true →
      a.resource.SharesTarget b.resource) :
    (runs.countP fun run => run.succeeded && key run) ≤ 1 := by
  refine countP_le_one (hapart.imp_of_mem fun ha hb hne hpa => ?_)
  rw [← Bool.not_eq_true]
  intro hpb
  rw [Bool.and_eq_true] at hpa hpb
  exact hne hpa.1 hpb.1 (hkey _ ha _ hb hpa.2 hpb.2)

/-- How the runs of a history exclude each other. -/
structure Exclusive (runs : List Run) : Prop where
  /-- A run whose targets meet those of an earlier one that succeeded is refused, and the tree is as
  it was. -/
  refused : runs.Pairwise fun earlier later => earlier.Blocks later → later.IsRefused
  /-- Two runs that succeed have no target in common. -/
  apart : runs.Pairwise fun earlier later => earlier.succeeded = true → later.succeeded = true →
    ¬earlier.resource.SharesTarget later.resource
  /-- A model succeeds at most once, for whatever family. -/
  model_once : ∀ model, (runs.countP fun run => run.succeeded && run.resource.model == model) ≤ 1
  /-- A family with a file that all models share succeeds at most once. -/
  upload_once : (runs.countP fun run => run.succeeded && run.resource.family == .upload) ≤ 1
  user_once : (runs.countP fun run => run.succeeded && run.resource.family == .user) ≤ 1

/-- **Generations under the same settings exclude each other,** however many others come between
them and however those end. -/
theorem exclusive_history {settings : Settings} (cwd : Place) (t : FileTree)
    (h : ∀ r ∈ resources, r.settings = settings) : Exclusive (history cwd t resources) := by
  let runs := history cwd t resources
  have hblocks : runs.Pairwise fun earlier later => earlier.Blocks later → later.IsRefused :=
    pairwise_history h
  have hsettings : ∀ run ∈ runs, run.resource.settings = settings :=
    fun run hrun => h _ (mem_history hrun).1
  have hexclude : runs.Pairwise fun earlier later => earlier.succeeded = true →
      later.succeeded = true → ¬earlier.resource.SharesTarget later.resource := by
    refine hblocks.imp fun himp hearlier hlater hshares => ?_
    simp [(himp ⟨hearlier, hshares⟩).succeeded_eq_false] at hlater
  have hsame : ∀ a ∈ runs, ∀ b ∈ runs, a.resource.settings = b.resource.settings :=
    fun a ha b hb => (hsettings a ha).trans (hsettings b hb).symm
  have hfamilies : ∀ family artifact, artifact ∈ family.artifacts → artifact.sharedStem? ≠ none →
      (runs.countP fun run => run.succeeded && run.resource.family == family) ≤ 1 := by
    intro family artifact hartifact hshared
    refine countP_succeeded_le_one _ hexclude fun a ha b hb hfamily hfamily' => ?_
    have hfamily := eq_of_beq hfamily
    exact Resource.sharesTarget_of_family artifact (hsame a ha b hb)
      (hfamily.trans (eq_of_beq hfamily').symm) (hfamily ▸ hartifact) hshared
  have hmodels : ∀ model,
      (runs.countP fun run => run.succeeded && run.resource.model == model) ≤ 1 := by
    intro model
    refine countP_succeeded_le_one _ hexclude fun a ha b hb hmodel hmodel' => ?_
    exact Resource.sharesTarget_of_model (hsame a ha b hb)
      ((eq_of_beq hmodel).trans (eq_of_beq hmodel').symm)
  exact ⟨hblocks, hexclude, hmodels, hfamilies .upload .uploadMiddleware (by decide) (by decide),
    hfamilies .user .authMiddleware (by decide) (by decide)⟩

/-- Four resources: the second is of the model of the first, the last of the family of the third. -/
def competitors : List Resource :=
  [.byDefault "user" .model Resource.isModelName_user,
    .byDefault "user" .upload Resource.isModelName_user,
    .byDefault "photo" .upload Resource.isModelName_photo,
    .byDefault "song" .upload Resource.isModelName_song]

theorem exclusive_history_competitors :
    (∀ r ∈ competitors, r.settings = {}) ∧
      (history [] FileTree.empty competitors).map Run.succeeded = [true, false, true, false] ∧
      Exclusive (history [] FileTree.empty competitors) := by
  have hsettings : ∀ r ∈ competitors, r.settings = {} := by simp [competitors, Resource.byDefault]
  exact ⟨hsettings, by decide +kernel, exclusive_history [] FileTree.empty hsettings⟩

end Generation

end CrudScaffold
