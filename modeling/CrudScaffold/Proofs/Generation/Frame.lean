import CrudScaffold.Proofs.Generation.Collision

set_option autoImplicit false

/-! # The frame of a generation

What a generation can do to a tree at all, however it ends: make directories at the parents of its
targets and above them, and write files at its targets. A file that was there before is written to
only through a target on whose way something was missing before. -/

namespace CrudScaffold

namespace Resource

open FileTree Generation

variable {r : Resource} {files : List PlannedFile} {t : FileTree} {cwd : Place}

theorem growsBy_write (r : Resource) (files : List PlannedFile) (t : FileTree) (cwd : Place) :
    GrowsBy cwd (Generation.directories ((r.targets files).map Target.path))
      ((r.targets files).map Target.path) t ((r.write (FileTree.disk cwd) files).run t).2 := by
  rw [run_write_snd]
  exact leads_writeTargets r.model _ t

theorem mem_targets_path {p : Path} (h : p ∈ (r.targets files).map Target.path) :
    ∃ file ∈ files, p = r.settings.root.join file.path := by
  obtain ⟨target, htarget, rfl⟩ := List.mem_map.1 h
  obtain ⟨file, hfile, rfl⟩ := List.mem_map.1 htarget
  exact ⟨file, hfile, rfl⟩

/-- If a generation changes anything, nothing stood at any of its targets. -/
theorem isOccupied_eq_false_of_ne (h : ((r.write (FileTree.disk cwd) files).run t).2 ≠ t) :
    ∀ file ∈ files, t.isOccupied cwd (r.settings.root.join file.path) = false := by
  intro file hfile
  rcases run_write_cases r files t cwd with ⟨target, events, -, hrun⟩ | ⟨hfirst, -⟩
  · exact absurd (by rw [hrun]) h
  · rw [firstOccupied?, List.find?_eq_none] at hfirst
    simpa using hfirst _ (List.mem_map_of_mem hfile)

/-- A file that a generation changes is one that a target leads to, and before the generation that
target was not found. -/
theorem notFound_of_changed {place : Place} {old new : Text}
    (hold : t.node? place = some (.file old))
    (hnew : ((r.write (FileTree.disk cwd) files).run t).2.node? place = some (.file new))
    (hne : new ≠ old) :
    ∃ file ∈ files,
      t.locate cwd .keep (r.settings.root.join file.path) = .failed .notFound ∧
      t.locate cwd .follow (r.settings.root.join file.path) = .failed .notFound ∧
      ((r.write (FileTree.disk cwd) files).run t).2.locate cwd .follow
        (r.settings.root.join file.path) = .node place (.file new) := by
  have hframe := growsBy_write r files t cwd
  rcases hframe.file place new hnew with hsame | ⟨p, hp, hl⟩
  · simp [hsame] at hold
    exact absurd hold hne
  · obtain ⟨file, hfile, rfl⟩ := mem_targets_path hp
    have hchanged : ((r.write (FileTree.disk cwd) files).run t).2 ≠ t := by
      intro heq
      rw [heq, hold] at hnew
      exact hne (by simpa using hnew.symm)
    -- Nothing stood at the target, yet it leads to a file that was there: its way is new.
    have hocc := isOccupied_eq_false_of_ne hchanged file hfile
    have hkeep := hframe.grows.locate_eq_notFound hocc hl (by simp [hold])
    exact ⟨file, hfile, hkeep, (locate_follow_of_not_isOccupied hocc).trans hkeep, hl⟩

/-- **The frame of a generation.** However it ends: no node goes and none becomes one of another
kind, and no link is made or changed; a new directory is where the parent of a target, or a path
above it, leads; a new file is where a target leads; and a file that was there has another content
only if a target leads to it that was not found before. -/
theorem write_frame (r : Resource) (files : List PlannedFile) (t : FileTree) (cwd : Place) :
    let t' := ((r.write (FileTree.disk cwd) files).run t).2
    (∀ place node, t.node? place = some node →
      ∃ node', t'.node? place = some node' ∧ node'.shape = node.shape) ∧
    (∀ place target, t'.node? place = some (.link target) ↔ t.node? place = some (.link target)) ∧
    (∀ place, t.node? place = none → t'.node? place = some .directory →
      ∃ file ∈ files, ∃ parent, (r.settings.root.join file.path).parent? = some parent ∧
        ∃ dir ∈ parent.ancestors, t'.locate cwd .follow dir = .node place .directory) ∧
    (∀ place content, t.node? place = none → t'.node? place = some (.file content) →
      ∃ file ∈ files,
        t'.locate cwd .follow (r.settings.root.join file.path) = .node place (.file content)) ∧
    (∀ place old new, t.node? place = some (.file old) → t'.node? place = some (.file new) →
      new ≠ old → ∃ file ∈ files,
        t.locate cwd .keep (r.settings.root.join file.path) = .failed .notFound ∧
        t.locate cwd .follow (r.settings.root.join file.path) = .failed .notFound ∧
        t'.locate cwd .follow (r.settings.root.join file.path) = .node place (.file new)) := by
  intro t'
  have hframe : GrowsBy cwd _ _ t t' := growsBy_write r files t cwd
  refine ⟨hframe.grows.node?, fun place target => ⟨hframe.grows.link place target, fun h => ?_⟩,
    fun place hnew hd => ?_, fun place content hnew hf => ?_, fun place old new ho hn hne => ?_⟩
  · obtain ⟨node, hnode, hshape⟩ := hframe.grows.node? place _ h
    rw [hnode, Node.shape_eq_link hshape]
  · rcases hframe.directory place hd with hold | ⟨dir, hdir, hl⟩
    · simp [hnew] at hold
    · obtain ⟨p, hp, parent, hparent, hmem⟩ := mem_directories.1 hdir
      obtain ⟨file, hfile, rfl⟩ := mem_targets_path hp
      exact ⟨file, hfile, parent, hparent, dir, hmem, hl⟩
  · rcases hframe.file place content hf with hold | ⟨p, hp, hl⟩
    · simp [hnew] at hold
    · obtain ⟨file, hfile, rfl⟩ := mem_targets_path hp
      exact ⟨file, hfile, hl⟩
  · exact notFound_of_changed ho hn hne

end Resource

end CrudScaffold
