import CrudScaffold.Proofs.Generation.Completeness

set_option autoImplicit false

/-! # The effect of a generation

What can be read back after a generation that succeeds: at every target the text of the last file
whose target leads to the same node, so its own text unless a later target leads there too
(`Resource.readsBack_of_write`). -/

namespace CrudScaffold

open FileTree Generation

/-- Whether two paths lead to the same node, with links followed. -/
def FileTree.LeadTogether (t : FileTree) (cwd : Place) (p q : Path) : Prop :=
  ∃ place node, t.locate cwd .follow p = .node place node ∧ t.locate cwd .follow q = .node place node

namespace Generation

variable {t t' : FileTree} {cwd : Place} {targets : List Target} {target : Target}
  {written : List Path}

/-- Every target leads to the file at its destination. -/
theorem Wrote.locate_target (h : Wrote t cwd (contents targets) written none t')
    (htarget : target ∈ targets) :
    ∃ place content, t.destination? cwd target.path = some place ∧
      leftAt? t cwd (contents targets) place = some content ∧
      t'.locate cwd .follow target.path = .node place (.file content) := by
  have hall : reached t cwd (contents targets) = contents targets := h.failure?_eq_none.1 rfl
  have hmem : (target.path, target.content) ∈ contents targets := List.mem_map_of_mem htarget
  obtain ⟨place, hdest⟩ := exists_destination?_of_reached hall hmem
  obtain ⟨before, after, hsplit⟩ := List.append_of_mem hmem
  obtain ⟨last, -, -, hleft⟩ := exists_leftAt? hall hsplit hdest
  refine ⟨place, last.2, hdest, hleft, ?_⟩
  refine locate_follow_of_node? ((h.destination?_eq _).trans hdest) ?_
  rw [h.node?_eq, hleft]
  rfl

end Generation

namespace Resource

variable {r : Resource} {files : List PlannedFile} {t : FileTree} {cwd : Place} {report : Report}

/-- The file that a target leads to holds the text of the last file whose target leads there. -/
theorem exists_last_of_wrote {t' : FileTree} {written : List Path} {file : PlannedFile}
    (h : Wrote t cwd (contents (r.targets files)) written none t') (hfile : file ∈ files) :
    ∃ before last after place, files = before ++ last :: after ∧
      t'.locate cwd .follow (r.settings.root.join file.path) = .node place (.file last.content) ∧
      t'.locate cwd .follow (r.settings.root.join last.path) = .node place (.file last.content) ∧
      ∀ later ∈ after,
        ¬t'.LeadTogether cwd (r.settings.root.join file.path) (r.settings.root.join later.path) := by
  obtain ⟨place, content, -, hleft, hloc⟩ := h.locate_target (mem_targets.2 ⟨file, hfile, rfl⟩)
  obtain ⟨before, last, after, hsplit, hlast, hafter, hcontent⟩ := leftAt?_eq_some_iff.1 hleft
  rw [h.failure?_eq_none.1 rfl] at hsplit
  obtain ⟨earlier, last, later, hfiles, -, rfl, rfl⟩ := exists_split_of_targets hsplit
  have hmem : ∀ other ∈ last :: later, other ∈ files := fun other hother => by
    rw [hfiles]
    exact List.mem_append_right _ hother
  obtain rfl : last.content = content := hcontent
  refine ⟨earlier, last, later, place, hfiles, hloc, ?_, fun other hother htogether => ?_⟩
  · obtain ⟨place', content', hdest, hleft', hloc'⟩ :=
      h.locate_target (mem_targets.2 ⟨last, hmem last List.mem_cons_self, rfl⟩)
    obtain rfl := Option.some.inj (hdest.symm.trans hlast)
    rw [Option.some.inj (hleft'.symm.trans hleft)] at hloc'
    exact hloc'
  · -- A later file that leads to the same place would have been the last one.
    obtain ⟨place', node, hp, hq⟩ := htogether
    obtain ⟨other', content', hdest, -, hloc'⟩ :=
      h.locate_target (mem_targets.2 ⟨other, hmem other (List.mem_cons_of_mem _ hother), rfl⟩)
    obtain rfl := (Landing.node.inj (hp.symm.trans hloc)).1
    obtain rfl := (Landing.node.inj (hloc'.symm.trans hq)).1
    exact hafter _ (List.mem_map_of_mem (mem_targets.2 ⟨other, hother, rfl⟩)) hdest

theorem read?_of_locate {p : Path} {place : Place} {content : Text}
    (h : t.locate cwd .follow p = .node place (.file content)) : t.read? cwd p = some content := by
  rw [FileTree.read?, h]

/-- What can be said of a report and a tree after some files are written. -/
structure ReadsBack (r : Resource) (files : List PlannedFile) (report : Report) (t : FileTree)
    (cwd : Place) : Prop where
  /-- The files are reported in their order. -/
  writtenFiles_eq : report.writtenFiles = files.map PlannedFile.path
  /-- Each target leads to a file, and the text there is that of the last file whose target leads
  to it. -/
  read_last : ∀ file ∈ files, ∃ before last after place, files = before ++ last :: after ∧
    t.LeadTogether cwd (r.settings.root.join file.path) (r.settings.root.join last.path) ∧
    (∀ later ∈ after,
      ¬t.LeadTogether cwd (r.settings.root.join file.path) (r.settings.root.join later.path)) ∧
    t.locate cwd .follow (r.settings.root.join file.path) = .node place (.file last.content) ∧
    t.read? cwd (r.settings.root.join file.path) = some last.content
  /-- It is the own text of a file if no later target leads there too. -/
  read_own : ∀ before file after, files = before ++ file :: after →
    (∀ later ∈ after,
      ¬t.LeadTogether cwd (r.settings.root.join file.path) (r.settings.root.join later.path)) →
    t.read? cwd (r.settings.root.join file.path) = some file.content

/-- **What a generation leaves behind.** After one that succeeds, all its files can be read back, up
to those that a later one has taken the place of. -/
theorem readsBack_of_write (h : ((r.write (FileTree.disk cwd) files).run t).1.2 = .ok report) :
    ReadsBack r files report ((r.write (FileTree.disk cwd) files).run t).2 cwd := by
  have hcourse := course_write r files t cwd
  generalize (r.write (FileTree.disk cwd) files).run t = outcome at hcourse h ⊢
  cases hcourse with
  | refused => simp at h
  | stopped => simp at h
  | brokenOff => simp at h
  | finished hfirst hprepared hmake hwrite =>
    obtain rfl := Except.ok.inj h
    have hwrote := wrote_of_run hwrite
    refine ⟨rfl, fun file hfile => ?_, fun before file after hsplit halone => ?_⟩
    · obtain ⟨before, last, after, place, hsplit, hloc, hlast, hafter⟩ :=
        exists_last_of_wrote hwrote hfile
      exact ⟨before, last, after, place, hsplit, ⟨place, _, hloc, hlast⟩, hafter, hloc,
        read?_of_locate hloc⟩
    · obtain ⟨place, last, hlast, hloc, hlastLoc⟩ := hwrote.complete (r.targets before)
        (file.target r.settings.root) (r.targets after) (by simp [targets, hsplit])
      rcases List.mem_cons.1 hlast with rfl | hlater
      · exact read?_of_locate hloc
      · obtain ⟨later, hmem, rfl⟩ := mem_targets.1 hlater
        exact absurd ⟨place, _, hloc, hlastLoc⟩ (halone later hmem)

/-- A tree with a link `d` to a directory `e` that is not there yet. -/
def withLink : FileTree := FileTree.empty.put "d" [] (.link ⟨"e"⟩)

/-- Two files, the second of which goes through the link of `Resource.withLink`. -/
def throughLink : List PlannedFile :=
  [⟨⟨"e/x"⟩, "one", .model, []⟩, ⟨⟨"d/x"⟩, "two", .route, []⟩]

/-- The link leads somewhere once `e` is made, so both files go to the same place. -/
theorem readsBack_throughLink :
    let r := byDefault "user" .model isModelName_user
    let outcome := (r.write (FileTree.disk []) throughLink).run withLink
    outcome.1.2 = .ok ⟨[⟨"e"⟩], [⟨"e/x"⟩, ⟨"d/x"⟩]⟩ ∧
      ReadsBack r throughLink ⟨[⟨"e"⟩], [⟨"e/x"⟩, ⟨"d/x"⟩]⟩ outcome.2 [] :=
  ⟨rfl, readsBack_of_write rfl⟩

end Resource

end CrudScaffold
