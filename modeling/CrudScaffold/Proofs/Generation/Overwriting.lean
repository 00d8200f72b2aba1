import CrudScaffold.Proofs.Generation.Frame
import CrudScaffold.Proofs.Generation.Writing
import CrudScaffold.Proofs.Plan

set_option autoImplicit false

/-! # Overwriting

The look at the targets comes before the directories are made, so it says nothing about a target
that only a new directory makes a way to: `a/../name` leads nowhere without an `a`, and to `name`
with one. When a generation spares the files that are there is said exactly
(`Resource.keepsFiles_generate_iff`); paths without two dots are safe. -/

namespace CrudScaffold

/-- Whether all files of a tree are in another one, with the same contents. -/
def FileTree.KeepsFiles (t t' : FileTree) : Prop :=
  ∀ place content, t.node? place = some (.file content) → t'.node? place = some (.file content)

open FileTree Generation

namespace Resource

variable {r : Resource} {files : List PlannedFile} {t : FileTree} {cwd : Place}

/-- Where two dots occur nowhere, no target comes to lead to a file that was there. -/
theorem keepsFiles_of_keepsDown
    (hfiles : ∀ file ∈ files, KeepsDown (r.settings.root.join file.path))
    (hlinks : ∀ place target, t.node? place = some (.link target) → KeepsDown target) :
    t.KeepsFiles ((r.write (FileTree.disk cwd) files).run t).2 := by
  intro place old hold
  have hgrows := (growsBy_write r files t cwd).grows
  obtain ⟨new, hnew⟩ := hgrows.file hold
  by_cases hne : new = old
  · rw [hnew, hne]
  · obtain ⟨file, hfile, -, hmissing, hl⟩ := notFound_of_changed hold hnew hne
    obtain ⟨node, hl⟩ := hgrows.locate_of_keepsDown hlinks (hfiles file hfile) hl (by simp [hold])
    simp [hmissing] at hl

/-- **When a generation spares the files that are there.** It does so exactly if it leaves at no
file another text than the file had. Where its files go is settled when the directories are made; if
there are no two dots in the targets and the links, they go to no file that is there. -/
theorem keepsFiles_generate_iff (r : Resource) (t : FileTree) (cwd : Place) :
    (t.KeepsFiles ((r.generate (FileTree.disk cwd)).run t).2 ↔
      ∀ files t₁, r.plan = .ok files → prepared? t cwd (r.targets files) = some t₁ →
        ∀ place old new, t.node? place = some (.file old) →
          leftAt? t₁ cwd (contents (r.targets files)) place = some new → new = old) ∧
    ((∀ artifact ∈ r.family.artifacts, KeepsDown (r.settings.root.join (r.path artifact))) →
      (∀ place target, t.node? place = some (.link target) → KeepsDown target) →
      t.KeepsFiles ((r.generate (FileTree.disk cwd)).run t).2) := by
  refine ⟨?_, fun htargets hlinks => ?_⟩
  · rcases run_generate_cases r t cwd with
      ⟨failure, -, hsame, hnot⟩ | ⟨files, t₁, written, failure?, hplan, hprepared, hwrote, -⟩
    · refine iff_of_true (fun place content hf => (hsame place content).2 hf) ?_
      intro files t₁ hplan hprepared
      simp [hnot files hplan] at hprepared
    · have hsame := sameFiles_of_prepared? hprepared
      rw [forall_prepared_iff hplan hprepared]
      constructor
      · intro hkeeps place old new hold hleft
        have hnew := hwrote.node?_eq place
        rw [hkeeps place old hold, hleft] at hnew
        simpa using hnew.symm
      · -- Where nothing is left, the file is as the making of directories left it.
        intro hspares place old hold
        rw [hwrote.node?_eq place]
        cases hleft : leftAt? t₁ cwd (contents (r.targets files)) place with
        | none => simpa using (hsame place old).2 hold
        | some new => simp [hspares place old new hold hleft]
  · cases hplan : r.plan with
    | error failure =>
      rw [run_generate_of_error hplan]
      exact fun _ _ hf => hf
    | ok files =>
      rw [run_generate_of_ok hplan]
      obtain ⟨hartifacts, hpaths⟩ := plan_eq_ok hplan
      refine keepsFiles_of_keepsDown (fun file hfile => ?_) hlinks
      rw [hpaths file hfile]
      exact htargets _ (hartifacts ▸ List.mem_map_of_mem hfile)

/-- A resource whose models go up again from a directory `a`. -/
def upwards : Resource where
  model := "user"
  tokens := []
  family := .model
  settings := { layout := { models := ⟨"a/.."⟩ } }
  isModelName_model := by decide +kernel
  isBlank_token := isBlank_of_mem_nil

/-- A tree with nothing but a file of the name of the model of `Resource.upwards`. -/
def withModel : FileTree := FileTree.empty.put "user.model.js" [] (.file "kept")

/-- Without a directory `a` the file that is there is not seen, and then `a` is made. -/
theorem not_keepsFiles_upwards :
    ¬withModel.KeepsFiles ((upwards.generate (FileTree.disk [])).run withModel).2 := by
  intro h
  have hthere : withModel.node? ["user.model.js"] = some (.file "kept") := by decide +kernel
  have hlost : ((upwards.generate (FileTree.disk [])).run withModel).2.node? ["user.model.js"] ≠
      some (.file "kept") := by decide +kernel
  exact hlost (h _ _ hthere)

end Resource

end CrudScaffold
