import CrudScaffold.Generation
import CrudScaffold.Proofs.FileTree.Disk

set_option autoImplicit false

/-! # The phases of a generation

A generation on a file tree looks at every target first, then makes directories, then writes files.
What each phase answers and what it does to the tree is said here, and how a whole generation is put
together from them (`Generation.run_writeTargets_cases`). -/

namespace CrudScaffold

@[simp] theorem PlannedFile.path_target (root : Path) (file : PlannedFile) :
    (file.target root).path = root.join file.path := rfl

namespace Generation

open FileTree

variable {t t' : FileTree} {cwd : Place} {dirs files : List Path}

/-! ## The look at the targets -/

/-- The first of some targets at which something stands. -/
def firstOccupied? (t : FileTree) (cwd : Place) (targets : List Target) : Option Target :=
  targets.find? fun target => t.isOccupied cwd target.path

theorem run_collision? (t : FileTree) (cwd : Place) (model : Text) (targets : List Target) :
    (collision? (FileTree.disk cwd) model (targets.map fun t => (t.path, t.label))).run t =
      ((firstOccupied? t cwd targets).map fun target =>
        .collision target.path model target.label, t) := by
  induction targets with
  | nil => rfl
  | cons target targets ih =>
    rw [List.map_cons, collision?, run_bind, run_isOccupied, firstOccupied?, List.find?_cons]
    cases t.isOccupied cwd target.path with
    | true => rfl
    | false => exact ih

/-! ## The directories -/

/-- The directories that may be made for some paths: their parents, and what is above those. -/
def directories (paths : List Path) : List Path :=
  paths.flatMap fun p => (p.parent?.map Path.ancestors).getD []

theorem mem_directories {paths : List Path} {dir : Path} :
    dir ∈ directories paths ↔ ∃ p ∈ paths, ∃ parent, p.parent? = some parent ∧
      dir ∈ parent.ancestors := by
  rw [directories, List.mem_flatMap]
  refine exists_congr fun p => and_congr_right fun _ => ?_
  cases p.parent? <;> simp

theorem leads_makeParents (paths : List Path) (hpaths : directories paths ⊆ dirs) :
    Leads (GrowsBy cwd dirs files) (makeParents (FileTree.disk cwd) paths) := by
  induction paths with
  | nil => exact .pure .refl _
  | cons p paths ih =>
    rw [directories, List.flatMap_cons, List.append_subset] at hpaths
    have hrest := ih hpaths.2
    rw [makeParents]
    cases hparent : p.parent? with
    | none => exact hrest
    | some dir =>
      have hdir : dir.ancestors ⊆ dirs := by simpa [hparent] using hpaths.1
      refine .bind .trans (leads_exists? dir) fun found => ?_
      split
      · exact hrest
      · refine .bind .trans (fun t => ?_) fun missing => ?_
        · rw [run_takeMissing]
          exact .refl t
        refine .bind .trans (leads_makeDirectories _ fun _ h => hdir h) fun result => ?_
        split
        · exact .pure .refl _
        · exact .bind .trans hrest fun made => .pure .refl _

theorem growsBy_of_makeParents {paths : List Path} {answer : List Path × Option Failure}
    (h : (makeParents (FileTree.disk cwd) paths).run t = (answer, t')) :
    GrowsBy cwd (directories paths) [] t t' := by
  have hleads : GrowsBy cwd (directories paths) [] t ((makeParents (FileTree.disk cwd) paths).run t).2 :=
    leads_makeParents paths (List.Subset.refl _) t
  rwa [h] at hleads

section Parents

variable {p dir : Path} {error : DiskError} {t₁ : FileTree}

theorem run_makeParents_of_exists? (h : ∀ dir, p.parent? = some dir → t.exists? cwd dir = true)
    (paths : List Path) :
    (makeParents (FileTree.disk cwd) (p :: paths)).run t =
      (makeParents (FileTree.disk cwd) paths).run t := by
  rw [makeParents]
  cases hparent : p.parent? with
  | none => rfl
  | some dir =>
    simp only [run_bind, run_exists?, h dir hparent]
    rfl

theorem run_makeParents_of_error (hparent : p.parent? = some dir)
    (hmissing : t.exists? cwd dir = false)
    (hmake : ((FileTree.disk cwd).makeDirectories dir.ancestors).run t = (some error, t₁))
    (paths : List Path) :
    (makeParents (FileTree.disk cwd) (p :: paths)).run t = (([], some (.disk dir error)), t₁) := by
  simp only [makeParents, hparent, run_bind, run_exists?, hmissing, run_takeMissing, hmake,
    Bool.false_eq_true, if_false]
  rfl

theorem run_makeParents_of_none (hparent : p.parent? = some dir)
    (hmissing : t.exists? cwd dir = false)
    (hmake : ((FileTree.disk cwd).makeDirectories dir.ancestors).run t = (none, t₁))
    (paths : List Path) :
    (makeParents (FileTree.disk cwd) (p :: paths)).run t =
      (((t.missing cwd dir.ancestors).reverse ++ ((makeParents (FileTree.disk cwd) paths).run t₁).1.1,
        ((makeParents (FileTree.disk cwd) paths).run t₁).1.2),
        ((makeParents (FileTree.disk cwd) paths).run t₁).2) := by
  simp only [makeParents, hparent, run_bind, run_exists?, hmissing, run_takeMissing, hmake,
    Bool.false_eq_true, if_false]
  rfl

end Parents

/-- Making directories fails at the parent of one of the paths, once the parents of all paths before
it are made. -/
theorem run_makeParents_eq_failure (paths : List Path) : ∀ {t made failure t'},
    (makeParents (FileTree.disk cwd) paths).run t = ((made, some failure), t') →
      ∃ before p after dir error made₁ t₁, paths = before ++ p :: after ∧ p.parent? = some dir ∧
        (makeParents (FileTree.disk cwd) before).run t = ((made₁, none), t₁) ∧
        ((FileTree.disk cwd).makeDirectories dir.ancestors).run t₁ = (some error, t') ∧
        failure = .disk dir error := by
  induction paths with
  | nil =>
    intro t made failure t' h
    cases h
  | cons p paths ih =>
    intro t made failure t' h
    by_cases hthere : ∀ dir, p.parent? = some dir → t.exists? cwd dir = true
    · rw [run_makeParents_of_exists? hthere] at h
      obtain ⟨before, q, after, dir, error, made₁, t₁, rfl, hparent, hbefore, hmake, hfailure⟩ := ih h
      exact ⟨p :: before, q, after, dir, error, made₁, t₁, rfl, hparent,
        (run_makeParents_of_exists? hthere before).trans hbefore, hmake, hfailure⟩
    · obtain ⟨dir, hparent, hmissing⟩ : ∃ dir, p.parent? = some dir ∧ t.exists? cwd dir = false := by
        simpa using hthere
      rcases hmake : ((FileTree.disk cwd).makeDirectories dir.ancestors).run t with ⟨result, t₁⟩
      cases result with
      | some error =>
        rw [run_makeParents_of_error hparent hmissing hmake] at h
        obtain ⟨hanswer, rfl⟩ := Prod.mk.inj h
        exact ⟨[], p, paths, dir, error, [], t, rfl, hparent, rfl, hmake,
          (Option.some.inj (Prod.mk.inj hanswer).2).symm⟩
      | none =>
        have hrun := run_makeParents_of_none hparent hmissing hmake
        rw [hrun] at h
        obtain ⟨hanswer, rfl⟩ := Prod.mk.inj h
        obtain ⟨before, q, after, dir', error, made₁, t₂, rfl, hparent', hbefore, hmake', hfailure⟩ :=
          ih (Prod.ext (Prod.ext rfl (Prod.mk.inj hanswer).2) rfl)
        refine ⟨p :: before, q, after, dir', error, (t.missing cwd dir.ancestors).reverse ++ made₁, t₂,
          rfl, hparent', ?_, hmake', hfailure⟩
        rw [hrun, hbefore]

/-! ## The files -/

theorem leads_writeFiles (contents : List (Path × Text))
    (hfiles : ∀ file ∈ contents, file.1 ∈ files) :
    Leads (GrowsBy cwd dirs files) (writeFiles (FileTree.disk cwd) contents) := by
  induction contents with
  | nil => exact .pure .refl _
  | cons file contents ih =>
    obtain ⟨p, content⟩ := file
    have hrest := ih fun file hf => hfiles file (List.mem_cons_of_mem _ hf)
    rw [writeFiles]
    refine .bind .trans (leads_writeFile content (hfiles _ List.mem_cons_self)) fun result => ?_
    split
    · exact .pure .refl _
    · exact .bind .trans hrest fun written => .pure .refl _

/-- Writing files fails at one of them, once all files before it are written. -/
theorem run_writeFiles_eq_failure (files : List (Path × Text)) : ∀ {t written failure t'},
    (writeFiles (FileTree.disk cwd) files).run t = ((written, some failure), t') →
      ∃ before p content after error, files = before ++ (p, content) :: after ∧
        (writeFiles (FileTree.disk cwd) before).run t = ((before.map Prod.fst, none), t') ∧
        t'.writeFile cwd p content = .error error ∧ failure = .disk p error := by
  induction files with
  | nil =>
    intro t written failure t' h
    cases h
  | cons file files ih =>
    obtain ⟨p, content⟩ := file
    intro t written failure t' h
    rw [writeFiles, run_bind] at h
    cases hwrite : t.writeFile cwd p content with
    | error error =>
      rw [run_writeFile_of_error hwrite] at h
      obtain ⟨hanswer, rfl⟩ := Prod.mk.inj h
      exact ⟨[], p, content, files, error, rfl, rfl, hwrite,
        (Option.some.inj (Prod.mk.inj hanswer).2).symm⟩
    | ok t₁ =>
      rw [run_writeFile_of_ok hwrite] at h
      obtain ⟨hanswer, rfl⟩ := Prod.mk.inj h
      obtain ⟨before, q, text, after, error, rfl, hbefore, hfails, hfailure⟩ :=
        ih (Prod.ext (Prod.ext rfl (Prod.mk.inj hanswer).2) rfl)
      refine ⟨(p, content) :: before, q, text, after, error, rfl, ?_, hfails, hfailure⟩
      rw [writeFiles, run_bind, run_writeFile_of_ok hwrite]
      simp only [run_bind]
      rw [hbefore]
      rfl

/-! ## The whole -/

/-- The tree that the files are written to: nothing stands at a target, and all directories could
be made. -/
def prepared? (t : FileTree) (cwd : Place) (targets : List Target) : Option FileTree :=
  match firstOccupied? t cwd targets with
  | some _ => none
  | none =>
    match (makeParents (FileTree.disk cwd) (targets.map Target.path)).run t with
    | ((_, none), t₁) => some t₁
    | ((_, some _), _) => none

theorem prepared?_eq_some {targets : List Target} (h : prepared? t cwd targets = some t') :
    firstOccupied? t cwd targets = none ∧
      GrowsBy cwd (directories (targets.map Target.path)) [] t t' := by
  rw [prepared?] at h
  split at h
  · simp at h
  · next hfirst =>
    split at h
    · next hrun => exact ⟨hfirst, Option.some.inj h ▸ growsBy_of_makeParents hrun⟩
    · simp at h

theorem sameFiles_of_prepared? {targets : List Target} (h : prepared? t cwd targets = some t') :
    t.SameFiles t' := (prepared?_eq_some h).2.sameFiles

/-- The contents of some targets, with the paths that they are written to. -/
def contents (targets : List Target) : List (Path × Text) := targets.map fun t => (t.path, t.content)

theorem map_fst_contents (targets : List Target) :
    (contents targets).map Prod.fst = targets.map Target.path := by
  rw [contents, List.map_map]
  rfl

/-- A generation ends at an occupied target, while it makes directories, or while or after it writes
files. -/
theorem run_writeTargets_cases (t : FileTree) (cwd : Place) (model : Text) (targets : List Target) :
    (∃ target, firstOccupied? t cwd targets = some target ∧ prepared? t cwd targets = none ∧
      (writeTargets (FileTree.disk cwd) model targets).run t =
        (([], [], some (.collision target.path model target.label)), t)) ∨
    (firstOccupied? t cwd targets = none ∧ prepared? t cwd targets = none ∧ ∃ made p error t₁,
      (makeParents (FileTree.disk cwd) (targets.map Target.path)).run t =
        ((made, some (.disk p error)), t₁) ∧
      (writeTargets (FileTree.disk cwd) model targets).run t =
        ((made, [], some (.disk p error)), t₁)) ∨
    (firstOccupied? t cwd targets = none ∧ ∃ made t₁,
      (makeParents (FileTree.disk cwd) (targets.map Target.path)).run t = ((made, none), t₁) ∧
      prepared? t cwd targets = some t₁ ∧
      (writeTargets (FileTree.disk cwd) model targets).run t =
        ((made, ((writeFiles (FileTree.disk cwd) (contents targets)).run t₁).1),
          ((writeFiles (FileTree.disk cwd) (contents targets)).run t₁).2)) := by
  rw [writeTargets, run_bind, run_collision?, prepared?]
  cases hfirst : firstOccupied? t cwd targets with
  | some target => exact Or.inl ⟨target, rfl, rfl, rfl⟩
  | none =>
    simp only [Option.map_none, run_bind, true_and]
    rcases hrun : (makeParents (FileTree.disk cwd) (targets.map Target.path)).run t with
      ⟨⟨made, failure?⟩, t₁⟩
    cases failure? with
    | some failure =>
      obtain ⟨-, -, -, dir, error, -, -, -, -, -, -, rfl⟩ := run_makeParents_eq_failure _ hrun
      exact Or.inr (Or.inl ⟨rfl, made, dir, error, t₁, rfl, rfl⟩)
    | none => exact Or.inr (Or.inr ⟨made, t₁, rfl, rfl, rfl⟩)

theorem leads_writeTargets (model : Text) (targets : List Target) :
    Leads (GrowsBy cwd (directories (targets.map Target.path)) (targets.map Target.path))
      (writeTargets (FileTree.disk cwd) model targets) := by
  rw [writeTargets]
  refine .bind .trans (fun t => ?_) fun collision? => ?_
  · rw [run_collision?]
    exact .refl t
  · -- Nothing has changed up to here; from here on nothing is looked at any more.
    split
    · exact .pure .refl _
    · refine .bind .trans (leads_makeParents _ (List.Subset.refl _)) fun result => ?_
      split
      · exact .pure .refl _
      · refine .bind .trans (leads_writeFiles _ ?_) fun result => .pure .refl _
        intro file hfile
        obtain ⟨target, htarget, rfl⟩ := List.mem_map.1 hfile
        exact List.mem_map_of_mem htarget

end Generation

namespace Resource

open FileTree Generation

variable {r : Resource} {files : List PlannedFile} {t t' : FileTree} {cwd : Place}
  {made written : List Path}

/-- The targets of some files of a resource. -/
def targets (r : Resource) (files : List PlannedFile) : List Target :=
  files.map (PlannedFile.target r.settings.root)

theorem mem_targets {target : Target} :
    target ∈ r.targets files ↔ ∃ file ∈ files, file.target r.settings.root = target := List.mem_map

/-- A split of what is known of the targets is one of the files. -/
theorem exists_split_of_targets {α : Type} {f : Target → α} {a : α} {before after : List α}
    (h : (r.targets files).map f = before ++ a :: after) :
    ∃ earlier file later, files = earlier ++ file :: later ∧ (r.targets earlier).map f = before ∧
      f (file.target r.settings.root) = a ∧ (r.targets later).map f = after := by
  rw [targets, List.map_map] at h
  obtain ⟨earlier, rest, rfl, hearlier, hrest⟩ := List.map_eq_append_iff.1 h
  obtain ⟨file, later, rfl, hfile, hlater⟩ := List.map_eq_cons_iff.1 hrest
  refine ⟨earlier, file, later, rfl, ?_, hfile, ?_⟩
  · rw [targets, List.map_map, hearlier]
  · rw [targets, List.map_map, hlater]

theorem run_write_of_failure {failure : Failure}
    (h : (writeTargets (FileTree.disk cwd) r.model (r.targets files)).run t =
      ((made, written, some failure), t')) :
    (r.write (FileTree.disk cwd) files).run t =
      ((events made written (some failure), .error failure), t') := by
  rw [write, run_bind, ← targets, h]
  rfl

theorem run_write_of_none
    (h : (writeTargets (FileTree.disk cwd) r.model (r.targets files)).run t =
      ((made, written, none), t')) :
    (r.write (FileTree.disk cwd) files).run t =
      ((events made written none,
        .ok ⟨made.map fun dir => (r.settings.root.below? dir).getD dir,
          files.map PlannedFile.path⟩), t') := by
  rw [write, run_bind, ← targets, h]
  rfl

theorem run_write_snd :
    ((r.write (FileTree.disk cwd) files).run t).2
      = ((writeTargets (FileTree.disk cwd) r.model (r.targets files)).run t).2 := by
  rcases hrun : (writeTargets (FileTree.disk cwd) r.model (r.targets files)).run t with
    ⟨⟨made, written, failure?⟩, t'⟩
  cases failure? with
  | some failure => rw [run_write_of_failure hrun]
  | none => rw [run_write_of_none hrun]

/-- The courses that the writing of some files can take, each with its answer and the tree that it
leaves behind. -/
inductive Course (r : Resource) (files : List PlannedFile) (t : FileTree) (cwd : Place) :
    (List Event × Except Failure Report) × FileTree → Prop where
  /-- Something stands at a target. -/
  | refused {target : Target} {events : List Event}
      (hfirst : firstOccupied? t cwd (r.targets files) = some target)
      (hprepared : prepared? t cwd (r.targets files) = none) :
      Course r files t cwd ((events, .error (.collision target.path r.model target.label)), t)
  /-- A directory cannot be made. -/
  | stopped {made : List Path} {dir : Path} {error : DiskError} {t₁ : FileTree} {events : List Event}
      (hfirst : firstOccupied? t cwd (r.targets files) = none)
      (hprepared : prepared? t cwd (r.targets files) = none)
      (hmake : (makeParents (FileTree.disk cwd) ((r.targets files).map Target.path)).run t =
        ((made, some (.disk dir error)), t₁)) :
      Course r files t cwd ((events, .error (.disk dir error)), t₁)
  /-- A file cannot be written. -/
  | brokenOff {made written : List Path} {p : Path} {error : DiskError} {t₁ t' : FileTree}
      {events : List Event} (hfirst : firstOccupied? t cwd (r.targets files) = none)
      (hprepared : prepared? t cwd (r.targets files) = some t₁)
      (hmake : (makeParents (FileTree.disk cwd) ((r.targets files).map Target.path)).run t =
        ((made, none), t₁))
      (hwrite : (writeFiles (FileTree.disk cwd) (contents (r.targets files))).run t₁ =
        ((written, some (.disk p error)), t')) :
      Course r files t cwd ((events, .error (.disk p error)), t')
  /-- All files are written. -/
  | finished {made written : List Path} {t₁ t' : FileTree} {events : List Event}
      (hfirst : firstOccupied? t cwd (r.targets files) = none)
      (hprepared : prepared? t cwd (r.targets files) = some t₁)
      (hmake : (makeParents (FileTree.disk cwd) ((r.targets files).map Target.path)).run t =
        ((made, none), t₁))
      (hwrite : (writeFiles (FileTree.disk cwd) (contents (r.targets files))).run t₁ =
        ((written, none), t')) :
      Course r files t cwd
        ((events, .ok ⟨made.map fun dir => (r.settings.root.below? dir).getD dir,
          files.map PlannedFile.path⟩), t')

theorem course_write (r : Resource) (files : List PlannedFile) (t : FileTree) (cwd : Place) :
    Course r files t cwd ((r.write (FileTree.disk cwd) files).run t) := by
  rcases run_writeTargets_cases t cwd r.model (r.targets files) with
    ⟨target, hfirst, hprepared, hrun⟩ | ⟨hfirst, hprepared, made, p, error, t₁, hmake, hrun⟩ |
    ⟨hfirst, made, t₁, hmake, hprepared, hrun⟩
  · rw [run_write_of_failure hrun]
    exact .refused hfirst hprepared
  · rw [run_write_of_failure hrun]
    exact .stopped hfirst hprepared hmake
  · rcases hwrite : (writeFiles (FileTree.disk cwd) (contents (r.targets files))).run t₁ with
      ⟨⟨written, failure?⟩, t'⟩
    rw [hwrite] at hrun
    cases failure? with
    | some failure =>
      obtain ⟨-, p, -, -, error, -, -, -, rfl⟩ := run_writeFiles_eq_failure _ hwrite
      rw [run_write_of_failure hrun]
      exact .brokenOff hfirst hprepared hmake hwrite
    | none =>
      rw [run_write_of_none hrun]
      exact .finished hfirst hprepared hmake hwrite

theorem run_generate_of_error {failure : Failure} (h : r.plan = .error failure) (t : FileTree) :
    (r.generate (FileTree.disk cwd)).run t = (([], .error failure), t) := by
  rw [generate, h]
  rfl

theorem run_generate_of_ok (h : r.plan = .ok files) (t : FileTree) :
    (r.generate (FileTree.disk cwd)).run t =
      let ((events, result), t') := (r.write (FileTree.disk cwd) files).run t
      (((files.map fun file => Event.planned file.artifact file.path) ++ events,
        result.map (files, ·)), t') := by
  rw [generate, h]
  rfl

end Resource

end CrudScaffold
