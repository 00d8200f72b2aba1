import CrudScaffold.Proofs.Generation.Phases

set_option autoImplicit false

/-! # Collisions

A generation is refused exactly if something stands at one of its targets, and then nothing has
been touched. The look at the targets comes first and is the only phase that can end in a collision:
the later phases fail on the disk. -/

namespace CrudScaffold

/-- Whether anything stands at a path: a file, a directory, or a link, wherever it leads. -/
def FileTree.Occupied (t : FileTree) (cwd : Place) (p : Path) : Prop :=
  ∃ place node, t.locate cwd .keep p = .node place node ∧ t.node? place = some node

theorem FileTree.isOccupied_iff {t : FileTree} {cwd : Place} {p : Path} :
    t.isOccupied cwd p = true ↔ t.Occupied cwd p := by
  rw [isOccupied, Occupied]
  split
  · next place node h => exact iff_of_true rfl ⟨place, node, h, node?_of_locate h⟩
  · next hnode =>
    refine iff_of_false (by simp) ?_
    rintro ⟨place, node, h, -⟩
    exact hnode place node h

namespace Resource

open FileTree Generation

variable {r : Resource} {files : List PlannedFile} {t : FileTree} {cwd : Place}

/-- The first of some files at whose target something stands decides about a refusal. -/
theorem firstOccupied?_targets_eq_some {target : Target} :
    firstOccupied? t cwd (r.targets files) = some target ↔
      ∃ before file after, files = before ++ file :: after ∧
        (∀ earlier ∈ before, ¬t.Occupied cwd (r.settings.root.join earlier.path)) ∧
        t.Occupied cwd (r.settings.root.join file.path) ∧
        target = file.target r.settings.root := by
  rw [firstOccupied?, targets, List.find?_map, Option.map_eq_some_iff]
  constructor
  · rintro ⟨file, hfind, rfl⟩
    obtain ⟨hocc, before, after, rfl, hbefore⟩ := List.find?_eq_some_iff_append.1 hfind
    refine ⟨before, file, after, rfl, fun earlier he => ?_, isOccupied_iff.1 hocc, rfl⟩
    rw [← isOccupied_iff]
    simpa using hbefore earlier he
  · rintro ⟨before, file, after, rfl, hbefore, hocc, rfl⟩
    refine ⟨file, List.find?_eq_some_iff_append.2 ⟨isOccupied_iff.2 hocc, before, after, rfl,
      fun earlier he => ?_⟩, rfl⟩
    have := hbefore earlier he
    rw [← isOccupied_iff] at this
    simpa using this

/-- A generation is refused at the first target that is occupied, with the tree as it was, and
fails on the disk at worst if there is none. -/
theorem run_write_cases (r : Resource) (files : List PlannedFile) (t : FileTree) (cwd : Place) :
    (∃ target events, firstOccupied? t cwd (r.targets files) = some target ∧
      (r.write (FileTree.disk cwd) files).run t =
        ((events, .error (.collision target.path r.model target.label)), t)) ∨
    (firstOccupied? t cwd (r.targets files) = none ∧
      ∀ failure, ((r.write (FileTree.disk cwd) files).run t).1.2 = .error failure →
        ∃ p error, failure = .disk p error) := by
  have hcourse := course_write r files t cwd
  generalize (r.write (FileTree.disk cwd) files).run t = outcome at hcourse ⊢
  cases hcourse with
  | refused hfirst => exact Or.inl ⟨_, _, hfirst, rfl⟩
  | stopped hfirst => exact Or.inr ⟨hfirst, fun _ h => ⟨_, _, (Except.error.inj h).symm⟩⟩
  | brokenOff hfirst => exact Or.inr ⟨hfirst, fun _ h => ⟨_, _, (Except.error.inj h).symm⟩⟩
  | finished hfirst => exact Or.inr ⟨hfirst, fun _ h => by simp at h⟩

theorem write_eq_collision {path : Path} {model label : Text} :
    ((r.write (FileTree.disk cwd) files).run t).1.2 = .error (.collision path model label) ↔
      ∃ target, firstOccupied? t cwd (r.targets files) = some target ∧
        path = target.path ∧ model = r.model ∧ label = target.label := by
  rcases run_write_cases r files t cwd with ⟨target, events, hfirst, hrun⟩ | ⟨hfirst, hdisk⟩
  · rw [hrun, hfirst]
    constructor
    · intro h
      obtain ⟨rfl, rfl, rfl⟩ := Failure.collision.inj (Except.error.inj h)
      exact ⟨target, rfl, rfl, rfl, rfl⟩
    · rintro ⟨_, hsame, rfl, rfl, rfl⟩
      obtain rfl := Option.some.inj hsame
      rfl
  · refine iff_of_false (fun h => ?_) (by simp [hfirst])
    obtain ⟨p, error, he⟩ := hdisk _ h
    simp at he

/-- **A generation is refused exactly for an occupied target.** The refusal names the first one, the
model, and what was to go there, and the tree is as it was. -/
theorem write_eq_collision_iff (r : Resource) (files : List PlannedFile) (t : FileTree)
    (cwd : Place) :
    let outcome := (r.write (FileTree.disk cwd) files).run t
    (∀ path model label, outcome.1.2 = .error (.collision path model label) ↔
      ∃ before file after, files = before ++ file :: after ∧
        (∀ earlier ∈ before, ¬t.Occupied cwd (r.settings.root.join earlier.path)) ∧
        t.Occupied cwd (r.settings.root.join file.path) ∧
        path = r.settings.root.join file.path ∧ model = r.model ∧ label = file.artifact.label) ∧
    ((∃ failure, outcome.1.2 = .error failure ∧ failure.isCollision = true) ↔
      ∃ file ∈ files, t.Occupied cwd (r.settings.root.join file.path)) ∧
    ((∃ failure, outcome.1.2 = .error failure ∧ failure.isCollision = true) → outcome.2 = t) := by
  intro outcome
  refine ⟨fun path model label => ?_, ?_⟩
  · rw [write_eq_collision]
    constructor
    · rintro ⟨target, hfirst, hpath, hmodel, hlabel⟩
      obtain ⟨before, file, after, hsplit, hbefore, hocc, rfl⟩ :=
        firstOccupied?_targets_eq_some.1 hfirst
      exact ⟨before, file, after, hsplit, hbefore, hocc, hpath, hmodel, hlabel⟩
    · rintro ⟨before, file, after, hsplit, hbefore, hocc, hpath, hmodel, hlabel⟩
      exact ⟨_, firstOccupied?_targets_eq_some.2 ⟨before, file, after, hsplit, hbefore, hocc, rfl⟩,
        hpath, hmodel, hlabel⟩
  · -- Either a target is occupied and that is the answer, or no answer is a collision.
    rcases run_write_cases r files t cwd with ⟨target, events, hfirst, hrun⟩ | ⟨hfirst, hdisk⟩
    · obtain ⟨before, file, after, hsplit, -, hocc, -⟩ := firstOccupied?_targets_eq_some.1 hfirst
      have hresult : outcome.1.2 = .error (.collision target.path r.model target.label) := by
        simp only [outcome, hrun]
      exact ⟨iff_of_true ⟨_, hresult, rfl⟩ ⟨file, by simp [hsplit], hocc⟩,
        fun _ => by simp only [outcome, hrun]⟩
    · have hno : ¬∃ failure, outcome.1.2 = .error failure ∧ failure.isCollision = true := by
        rintro ⟨failure, hfailure, hcollision⟩
        obtain ⟨p, error, rfl⟩ := hdisk failure hfailure
        simp [Failure.isCollision] at hcollision
      refine ⟨iff_of_false hno ?_, fun h => absurd h hno⟩
      rintro ⟨file, hfile, hocc⟩
      rw [firstOccupied?, List.find?_eq_none] at hfirst
      exact hfirst _ (List.mem_map_of_mem hfile) (isOccupied_iff.2 hocc)

end Resource

end CrudScaffold
