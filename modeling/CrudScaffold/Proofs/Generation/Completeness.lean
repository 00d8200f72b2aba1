import CrudScaffold.Proofs.Generation.Writing
import CrudScaffold.Proofs.Plan

set_option autoImplicit false

/-! # All or nothing

A generation that succeeds has written all files of its family (`Resource.delivered_of_generate`).
One that fails may have written some of them: the look at the targets finds out what is in the way,
but not what cannot be written. When no failure leaves a file behind is said exactly
(`Resource.allOrNothing_iff`). -/

namespace CrudScaffold

open FileTree Generation

namespace Generation

variable {t t' : FileTree} {cwd place : Place}

/-- Once all files can be written, one of them is the last that goes to the place of a given one. -/
theorem exists_leftAt? {files before after : List (Path × Text)} {file : Path × Text}
    (hall : reached t cwd files = files) (hsplit : files = before ++ file :: after)
    (hdest : t.destination? cwd file.1 = some place) :
    ∃ last ∈ file :: after, t.destination? cwd last.1 = some place ∧
      leftAt? t cwd files place = some last.2 := by
  -- Looking from the end, the file itself is met at the latest.
  rw [leftAt?, hall, hsplit, List.reverse_append, List.find?_append]
  cases hfind : (file :: after).reverse.find?
      (fun file => t.destination? cwd file.1 == some place) with
  | none =>
    rw [List.find?_eq_none] at hfind
    exact absurd (by simpa using hdest) (hfind file (by simp))
  | some last =>
    exact ⟨last, List.mem_reverse.1 (List.mem_of_find?_eq_some hfind),
      by simpa using List.find?_some hfind, rfl⟩

/-- Whether all targets lead to files as they were to be written: each to its own content, or to
that of a later target that leads to the same place. -/
def Complete (t : FileTree) (cwd : Place) (targets : List Target) : Prop :=
  ∀ before target after, targets = before ++ target :: after →
    ∃ place, ∃ last ∈ target :: after,
      t.locate cwd .follow target.path = .node place (.file last.content) ∧
      t.locate cwd .follow last.path = .node place (.file last.content)

theorem Wrote.complete {targets : List Target} {written : List Path}
    (h : Wrote t cwd (contents targets) written none t') : Complete t' cwd targets := by
  intro before target after hsplit
  have hall : reached t cwd (contents targets) = contents targets := h.failure?_eq_none.1 rfl
  have hcontents : contents targets =
      contents before ++ (target.path, target.content) :: contents after := by
    simp [contents, hsplit]
  have hmem : (target.path, target.content) ∈ contents targets := by simp [hcontents]
  obtain ⟨place, hplace⟩ := exists_destination?_of_reached hall hmem
  obtain ⟨file, hfile, hfilePlace, hleft⟩ := exists_leftAt? hall hcontents hplace
  obtain ⟨last, hlast, rfl⟩ : ∃ last ∈ target :: after, (last.path, last.content) = file :=
    List.mem_map.1 hfile
  have hnode : t'.node? place = some (.file last.content) := by
    rw [h.node?_eq, hleft]
    rfl
  refine ⟨place, last, hlast, ?_, ?_⟩
  · exact locate_follow_of_node? ((h.destination?_eq _).trans hplace) hnode
  · exact locate_follow_of_node? ((h.destination?_eq _).trans hfilePlace) hnode

end Generation

namespace Resource

variable {r : Resource} {t : FileTree} {cwd : Place} {files : List PlannedFile} {report : Report}

/-- What a resource is owed: a file for each artifact of its family, written and reported. -/
structure Delivered (r : Resource) (files : List PlannedFile) (report : Report) (t : FileTree)
    (cwd : Place) : Prop where
  artifacts_eq : files.map PlannedFile.artifact = r.family.artifacts
  writtenFiles_eq : report.writtenFiles = files.map PlannedFile.path
  complete : Complete t cwd (r.targets files)

/-- A generation that succeeds has written everything. -/
theorem delivered_of_generate
    (h : ((r.generate (FileTree.disk cwd)).run t).1.2 = .ok (files, report)) :
    Delivered r files report ((r.generate (FileTree.disk cwd)).run t).2 cwd := by
  rcases run_generate_cases r t cwd with
    ⟨failure, hfailure, -⟩ | ⟨files', t₁, written, failure?, hplan, -, hwrote, hresult⟩
  · simp [hfailure] at h
  · rcases hresult with ⟨failure, -, hfailure⟩ | ⟨report', rfl, hreport, hok⟩
    · simp [hfailure] at h
    · obtain ⟨rfl, rfl⟩ := Prod.mk.inj (Except.ok.inj (hok.symm.trans h))
      exact ⟨(plan_eq_ok hplan).1, hreport, hwrote.complete⟩

/-- Whether a generation delivers, or fails and leaves all files as they are. -/
def AllOrNothing (r : Resource) (t : FileTree) (cwd : Place) : Prop :=
  let outcome := (r.generate (FileTree.disk cwd)).run t
  (∃ files report, outcome.1.2 = .ok (files, report) ∧ Delivered r files report outcome.2 cwd) ∨
  ∃ failure, outcome.1.2 = .error failure ∧ t.SameFiles outcome.2

/-- **When a generation is all or nothing.** It is so exactly if all its files can be written once
its directories are made, or those before the first that cannot be leave nothing that was not there. -/
theorem allOrNothing_iff (r : Resource) (t : FileTree) (cwd : Place) :
    r.AllOrNothing t cwd ↔
      ∀ files t₁, r.plan = .ok files → prepared? t cwd (r.targets files) = some t₁ →
        reached t₁ cwd (contents (r.targets files)) = contents (r.targets files) ∨
        ∀ place content, leftAt? t₁ cwd (contents (r.targets files)) place = some content →
          t.node? place = some (.file content) := by
  rw [AllOrNothing]
  rcases run_generate_cases r t cwd with
    ⟨failure, hfailure, hsame, hnot⟩ | ⟨files, t₁, written, failure?, hplan, hprepared, hwrote, hresult⟩
  · refine iff_of_true (Or.inr ⟨failure, hfailure, hsame⟩) ?_
    intro files t₁ hplan hprepared
    simp [hnot files hplan] at hprepared
  · have hmade := sameFiles_of_prepared? hprepared
    rw [forall_prepared_iff hplan hprepared]
    rcases hresult with ⟨failure, rfl, hfailure⟩ | ⟨report, rfl, -, hok⟩
    · -- A file could not be written, so nothing but the files before it decides.
      have hpart : reached t₁ cwd (contents (r.targets files)) ≠ contents (r.targets files) :=
        fun hall => by simpa using hwrote.failure?_eq_none.2 hall
      constructor
      · rintro (⟨_, _, hok, -⟩ | ⟨-, -, hsame⟩)
        · simp [hfailure] at hok
        · refine Or.inr fun place content hleft => (hsame place content).1 ?_
          rw [hwrote.node?_eq, hleft]
          rfl
      · intro h
        have hold := h.resolve_left hpart
        refine Or.inr ⟨failure, hfailure, fun place content => ?_⟩
        rw [hwrote.node?_eq]
        cases hleft : leftAt? t₁ cwd (contents (r.targets files)) place with
        | none => simpa using hmade place content
        | some content' => simp [hold place content' hleft]
    · exact iff_of_true (Or.inl ⟨files, report, hok, delivered_of_generate hok⟩)
        (Or.inl (hwrote.failure?_eq_none.1 rfl))

/-- A resource whose name leaves room for the word for a model in the name of a file, but not for
that for a validation. -/
def longNamed : Resource where
  model := List.replicate 246 'u'
  tokens := []
  family := .model
  settings := {}
  isModelName_model := by decide +kernel
  isBlank_token := isBlank_of_mem_nil

/-- The model is written before the validation cannot be. -/
theorem not_allOrNothing_longNamed : ¬longNamed.AllOrNothing FileTree.empty [] := by
  rintro (⟨files, report, hok, -⟩ | ⟨failure, -, hsame⟩)
  · have hfails : ((longNamed.generate (FileTree.disk [])).run FileTree.empty).1.2.toBool = false := by
      decide +kernel
    rw [hok] at hfails
    cases hfails
  · have hthere : (((longNamed.generate (FileTree.disk [])).run FileTree.empty).2.node?
        [longNamed.fileName .model, "models"]).map Node.shape = some (.file []) := by decide +kernel
    obtain ⟨node, hnode, hshape⟩ := Option.map_eq_some_iff.1 hthere
    obtain ⟨content, rfl⟩ : ∃ content, node = .file content :=
      Node.shape_eq_file (show node.shape = (Node.file []).shape from hshape)
    have hold := (hsame _ _).1 hnode
    simp [FileTree.empty, node?, nodeAt?] at hold

end Resource

end CrudScaffold
