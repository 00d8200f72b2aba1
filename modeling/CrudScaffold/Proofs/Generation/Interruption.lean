import CrudScaffold.Proofs.Generation.Writing
import CrudScaffold.Proofs.Plan

set_option autoImplicit false

/-! # Interrupted generations

How far a generation has come that fails on the disk. It was making directories, and then no file
has been touched, or it was writing files, and then all directories are made and exactly the files
before the one that failed are written (`Resource.write_eq_disk_failure`). Nothing is taken back. -/

namespace CrudScaffold

open FileTree Generation

variable {t t' : FileTree} {cwd place : Place}

/-- Whether two trees have the same directories. -/
def FileTree.SameDirectories (t t' : FileTree) : Prop :=
  ∀ place, t'.node? place = some .directory ↔ t.node? place = some .directory

namespace Generation

theorem exists_destination?_of_leftAt? {files : List (Path × Text)} {content : Text}
    (h : leftAt? t cwd files place = some content) :
    ∃ file ∈ files, t.destination? cwd file.1 = some place ∧ file.2 = content := by
  obtain ⟨file, hfind, rfl⟩ := Option.map_eq_some_iff.1 h
  refine ⟨file, ?_, by simpa using List.find?_some hfind, rfl⟩
  exact (List.takeWhile_sublist _).mem (List.mem_reverse.1 (List.mem_of_find?_eq_some hfind))

/-- Files are written where no directory is. -/
theorem Wrote.sameDirectories {files : List (Path × Text)} {written : List Path}
    {failure? : Option Failure} (h : Wrote t cwd files written failure? t') :
    t.SameDirectories t' := by
  intro place
  rw [h.node?_eq]
  cases hleft : leftAt? t cwd files place with
  | none => exact Iff.rfl
  | some content =>
    obtain ⟨file, -, hdest, -⟩ := exists_destination?_of_leftAt? hleft
    obtain ⟨name, dir, rfl, -, hnone | ⟨old, hold⟩⟩ := node?_of_destination? hdest
    · simp [hnone]
    · simp [hold]

end Generation

namespace Resource

variable {r : Resource} {files : List PlannedFile}

/-- Whether a generation has come to the parent of a target and cannot make it: the parents of the
targets before are made, and all files are as they were. -/
def HaltsAtParent (r : Resource) (files : List PlannedFile) (t t' : FileTree) (cwd : Place)
    (dir : Path) (error : DiskError) : Prop :=
  ∃ before file after made t₁, files = before ++ file :: after ∧
    (r.settings.root.join file.path).parent? = some dir ∧
    (makeParents (FileTree.disk cwd) ((r.targets before).map Target.path)).run t =
      ((made, none), t₁) ∧
    ((FileTree.disk cwd).makeDirectories dir.ancestors).run t₁ = (some error, t') ∧
    t.SameFiles t'

/-- Whether a generation has come to a target and cannot write it: the parents of all targets are
made, then the files before that one are written, and those after it are not. -/
def HaltsAtFile (r : Resource) (files : List PlannedFile) (t t' : FileTree) (cwd : Place)
    (p : Path) (error : DiskError) : Prop :=
  ∃ before file after made t₁, files = before ++ file :: after ∧
    p = r.settings.root.join file.path ∧
    (makeParents (FileTree.disk cwd) ((r.targets files).map Target.path)).run t =
      ((made, none), t₁) ∧
    (writeFiles (FileTree.disk cwd) (contents (r.targets before))).run t₁ =
      (((r.targets before).map Target.path, none), t') ∧
    t'.writeFile cwd p file.content = .error error ∧
    t.SameFiles t₁ ∧ t₁.SameDirectories t'

/-- **Where a generation fails on the disk.** At the parent of a target, before any file is touched,
or at a target, after all directories are made and the files before it are written. -/
theorem write_eq_disk_failure {p : Path} {error : DiskError}
    (h : ((r.write (FileTree.disk cwd) files).run t).1.2 = .error (.disk p error)) :
    HaltsAtParent r files t ((r.write (FileTree.disk cwd) files).run t).2 cwd p error ∨
      HaltsAtFile r files t ((r.write (FileTree.disk cwd) files).run t).2 cwd p error := by
  have hcourse := course_write r files t cwd
  generalize (r.write (FileTree.disk cwd) files).run t = outcome at hcourse h ⊢
  cases hcourse with
  | refused => simp at h
  | finished => simp at h
  | stopped hfirst hprepared hmake =>
    obtain ⟨rfl, rfl⟩ := Failure.disk.inj (Except.error.inj h)
    have hgrows := growsBy_of_makeParents hmake
    obtain ⟨before, p, after, dir, error, made, t₁, hsplit, hparent, hbefore, hdirs, hfailure⟩ :=
      run_makeParents_eq_failure _ hmake
    obtain ⟨rfl, rfl⟩ := Failure.disk.inj hfailure
    obtain ⟨earlier, file, later, rfl, rfl, rfl, -⟩ := exists_split_of_targets hsplit
    exact Or.inl ⟨earlier, file, later, made, t₁, rfl, hparent, hbefore, hdirs, hgrows.sameFiles⟩
  | brokenOff hfirst hprepared hmake hwrite =>
    obtain ⟨rfl, rfl⟩ := Failure.disk.inj (Except.error.inj h)
    obtain ⟨before, p, content, after, error, hsplit, hbefore, hfails, hfailure⟩ :=
      run_writeFiles_eq_failure _ hwrite
    obtain ⟨rfl, rfl⟩ := Failure.disk.inj hfailure
    obtain ⟨earlier, file, later, rfl, rfl, hfile, -⟩ := exists_split_of_targets hsplit
    obtain ⟨rfl, rfl⟩ := Prod.mk.inj hfile
    rw [← contents, map_fst_contents] at hbefore
    exact Or.inr ⟨earlier, file, later, _, _, rfl, rfl, hmake, hbefore, hfails,
      sameFiles_of_prepared? hprepared, (wrote_of_run hbefore).sameDirectories⟩

/-- Two files, the second of which goes to a path that ends in a slash. -/
def slashed : List PlannedFile :=
  [⟨⟨"a/x"⟩, "one", .model, []⟩, ⟨⟨"a/x/"⟩, "two", .route, []⟩]

/-- The first of the files is written before the second one cannot be. -/
theorem write_eq_disk_failure_slashed :
    let r := byDefault "user" .model isModelName_user
    let outcome := (r.write (FileTree.disk []) slashed).run FileTree.empty
    outcome.1.2 = .error (.disk ⟨"./a/x/"⟩ .isDirectory) ∧
      (HaltsAtParent r slashed FileTree.empty outcome.2 [] ⟨"./a/x/"⟩ .isDirectory ∨
        HaltsAtFile r slashed FileTree.empty outcome.2 [] ⟨"./a/x/"⟩ .isDirectory) :=
  ⟨rfl, write_eq_disk_failure rfl⟩

end Resource

end CrudScaffold
