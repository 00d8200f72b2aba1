import CrudScaffold.FileTree.Disk
import CrudScaffold.Proofs.FileTree.Change

set_option autoImplicit false

/-! # File trees as disks

What the operations of a disk do when it is a file tree. A relation between trees that is kept by
one operation after another is kept by whatever is put together from them (`FileTree.Leads.bind`). -/

namespace CrudScaffold

theorem eq_ok_of_toOption {ε α : Type} {result : Except ε α} {a : α}
    (h : result.toOption = some a) : result = .ok a := by
  cases result with
  | ok b => exact congrArg Except.ok (Option.some.inj h)
  | error error => simp [Except.toOption] at h

namespace FileTree

variable {t t' : FileTree} {cwd : Place} {p : Path} {dirs files : List Path} {α β : Type}

/-! ## One operation -/

@[simp] theorem run_exists? (t : FileTree) (cwd : Place) (p : Path) :
    ((FileTree.disk cwd).exists? p).run t = (t.exists? cwd p, t) := rfl

@[simp] theorem run_isDirectory (t : FileTree) (cwd : Place) (p : Path) :
    ((FileTree.disk cwd).isDirectory p).run t = (t.isDirectory cwd p, t) := rfl

@[simp] theorem run_isOccupied (t : FileTree) (cwd : Place) (p : Path) :
    ((FileTree.disk cwd).isOccupied p).run t = (t.isOccupied cwd p, t) := rfl

theorem run_makeDirectory_of_ok (h : t.makeDirectory cwd p = .ok t') :
    ((FileTree.disk cwd).makeDirectory p).run t = (none, t') := by
  simp [disk, commit, StateT.run, h]

theorem run_makeDirectory_of_error {error : DiskError} (h : t.makeDirectory cwd p = .error error) :
    ((FileTree.disk cwd).makeDirectory p).run t = (some error, t) := by
  simp [disk, commit, StateT.run, h]

theorem run_writeFile_of_ok {content : Text} (h : t.writeFile cwd p content = .ok t') :
    ((FileTree.disk cwd).writeFile p content).run t = (none, t') := by
  simp [disk, commit, StateT.run, h]

theorem run_writeFile_of_error {content : Text} {error : DiskError}
    (h : t.writeFile cwd p content = .error error) :
    ((FileTree.disk cwd).writeFile p content).run t = (some error, t) := by
  simp [disk, commit, StateT.run, h]

/-! ## Operations in a row -/

theorem run_bind (x : StateM FileTree α) (f : α → StateM FileTree β) (t : FileTree) :
    (x >>= f).run t = (f (x.run t).1).run (x.run t).2 := rfl

/-- Whether a computation always leads from a tree to one that is related to it. -/
def Leads (R : FileTree → FileTree → Prop) (x : StateM FileTree α) : Prop := ∀ t, R t (x.run t).2

section Leads

variable {R : FileTree → FileTree → Prop} {x : StateM FileTree α}

theorem Leads.pure (hrefl : ∀ t, R t t) (a : α) : Leads R (Pure.pure a : StateM FileTree α) :=
  fun t => hrefl t

theorem Leads.bind {f : α → StateM FileTree β} (htrans : ∀ {t t' t''}, R t t' → R t' t'' → R t t'')
    (hx : Leads R x) (hf : ∀ a, Leads R (f a)) : Leads R (x >>= f) := by
  intro t
  rw [run_bind]
  exact htrans (hx t) (hf _ _)

end Leads

theorem leads_exists? (p : Path) : Leads (GrowsBy cwd dirs files) ((FileTree.disk cwd).exists? p) :=
  fun t => .refl t

theorem leads_makeDirectory (hp : p ∈ dirs) :
    Leads (GrowsBy cwd dirs files) ((FileTree.disk cwd).makeDirectory p) := by
  intro t
  cases h : t.makeDirectory cwd p with
  | ok t' =>
    rw [run_makeDirectory_of_ok h]
    exact (growsBy_makeDirectory h).mono (by simpa using hp) (by simp)
  | error error =>
    rw [run_makeDirectory_of_error h]
    exact .refl t

theorem leads_writeFile (content : Text) (hp : p ∈ files) :
    Leads (GrowsBy cwd dirs files) ((FileTree.disk cwd).writeFile p content) := by
  intro t
  cases h : t.writeFile cwd p content with
  | ok t' =>
    rw [run_writeFile_of_ok h]
    exact (growsBy_writeFile h).mono (by simp) (by simpa using hp)
  | error error =>
    rw [run_writeFile_of_error h]
    exact .refl t

theorem leads_orExisting (p : Path) (result : Option DiskError) :
    Leads (GrowsBy cwd dirs files) ((FileTree.disk cwd).orExisting p result) := by
  cases result with
  | none => exact .pure .refl _
  | some error =>
    rw [Disk.orExisting]
    refine .bind .trans (fun t => .refl t) fun existing => ?_
    split <;> exact .pure .refl _

/-- Making a directory with all that are missing above it makes directories at those paths only. -/
theorem leads_makeDirectories (paths : List Path) (hpaths : ∀ p ∈ paths, p ∈ dirs) :
    Leads (GrowsBy cwd dirs files) ((FileTree.disk cwd).makeDirectories paths) := by
  induction paths with
  | nil => exact .pure .refl _
  | cons p parents ih =>
    have hp : Leads (GrowsBy cwd dirs files) ((FileTree.disk cwd).makeDirectory p) :=
      leads_makeDirectory (hpaths p List.mem_cons_self)
    have hparents := ih fun q hq => hpaths q (List.mem_cons_of_mem _ hq)
    rw [Disk.makeDirectories]
    split
    · exact .pure .refl _
    · -- If the parent is missing, the path is tried again once the parent is there.
      refine .bind .trans hp fun result => ?_
      split
      · refine .bind .trans hparents fun result => ?_
        split
        · exact .bind .trans hp fun result => leads_orExisting p result
        · exact .pure .refl _
      · exact leads_orExisting p _

/-- The paths that a directory is made for: the first ones that lead to nothing. -/
def missing (t : FileTree) (cwd : Place) (paths : List Path) : List Path :=
  paths.takeWhile fun p => !t.exists? cwd p

theorem run_takeMissing (paths : List Path) (t : FileTree) (cwd : Place) :
    ((FileTree.disk cwd).takeMissing paths).run t = (t.missing cwd paths, t) := by
  induction paths with
  | nil => rfl
  | cons p paths ih =>
    rw [Disk.takeMissing, run_bind, run_exists?, missing, List.takeWhile_cons]
    cases t.exists? cwd p with
    | true => rfl
    | false =>
      simp only [Bool.false_eq_true, if_false, run_bind, ih, Bool.not_false, if_true]
      rfl

end FileTree

end CrudScaffold
