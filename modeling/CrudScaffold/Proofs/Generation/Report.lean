import CrudScaffold.Proofs.FileTree.Naming
import CrudScaffold.Proofs.FileTree.Raising
import CrudScaffold.Proofs.Generation.Interruption

set_option autoImplicit false

/-! # The report on directories

Which directories a generation reports: exactly those that it has made, each once and after the one
that it is in (`Resource.reportsNew_of_write`). The missing paths above each target are collected
before anything is made for it, so no directory is told twice; and no path goes on below one that it
has just found missing, so none is left out. -/

namespace CrudScaffold

open FileTree Generation

namespace Generation

variable {t t' : FileTree} {cwd : Place} {paths made : List Path}

/-- **The parents of some paths.** The paths told lead one by one to the directories that are new. -/
theorem raised_of_makeParents (paths : List Path) : ∀ {t made t'},
    (∀ p ∈ paths, p.isAbsolute = true ∧ KeepsDown p) →
    (makeParents (FileTree.disk cwd) paths).run t = ((made, none), t') →
    ∃ places, Raised t places t' ∧ (∀ dir ∈ made, dir.isAbsolute = true) ∧
      List.Forall₂ (t'.LeadsTo cwd) made places := by
  induction paths with
  | nil =>
    intro t made t' _ hrun
    cases hrun
    exact ⟨[], .done t, by simp, .nil⟩
  | cons p paths ih =>
    intro t made t' hpaths hrun
    obtain ⟨⟨habs, hdown⟩, hrest⟩ := List.forall_mem_cons.1 hpaths
    by_cases hthere : ∀ dir, p.parent? = some dir → t.exists? cwd dir = true
    · rw [run_makeParents_of_exists? hthere] at hrun
      exact ih hrest hrun
    · obtain ⟨dir, hparent, hmissing⟩ : ∃ dir, p.parent? = some dir ∧ t.exists? cwd dir = false := by
        simpa using hthere
      rcases hmake : ((FileTree.disk cwd).makeDirectories dir.ancestors).run t with ⟨result, t₁⟩
      cases result with
      | some error =>
        rw [run_makeParents_of_error hparent hmissing hmake] at hrun
        cases hrun
      | none =>
        have hr := not_isRefused_of_makeDirectories (Path.text_ne_nil_of_parent? habs hparent) hmissing hmake
        have hascent := ascent_of_parent? habs hdown hparent hr
        obtain ⟨places₁, _, hraised₁, hleads₁, -, -⟩ := raised_of_makeDirectories hascent hmissing hmake
        rw [run_makeParents_of_none hparent hmissing hmake] at hrun
        obtain ⟨hanswer, rfl⟩ := Prod.mk.inj hrun
        obtain ⟨rfl, hnone⟩ := Prod.mk.inj hanswer
        obtain ⟨places₂, hraised₂, habs₂, hleads₂⟩ :=
          ih hrest (Prod.ext (Prod.ext rfl hnone) rfl)
        refine ⟨places₁ ++ places₂, hraised₁.append hraised₂, fun q hq => ?_, ?_⟩
        · rcases List.mem_append.1 hq with hq | hq
          · exact hascent.isAbsolute q ((List.takeWhile_sublist _).mem (List.mem_reverse.1 hq))
          · exact habs₂ q hq
        · exact List.rel_append (hleads₁.imp fun _ _ hl => hl.grows hraised₂.grows) hleads₂

end Generation

namespace Resource

variable {r : Resource} {files : List PlannedFile} {report : Report} {t t' : FileTree} {cwd : Place}

/-- Whether a report tells which directories are new in a tree. -/
structure ReportsNew (r : Resource) (report : Report) (t t' : FileTree) (cwd : Place)
    (places : List Place) : Prop where
  /-- One by one, the paths told name directories, seen from the root of the project. -/
  names : List.Forall₂ (fun dir place => t'.NamesDirectory cwd (r.settings.root.join dir) place)
    report.madeDirectories places
  /-- A disk that accepts such a path finds a directory there. -/
  isDirectory : ∀ dir ∈ report.madeDirectories, ¬IsRefused (r.settings.root.join dir) →
    t'.isDirectory cwd (r.settings.root.join dir) = true
  /-- None of the directories is told twice. -/
  nodup : places.Nodup
  /-- They are those that are there now and were not there before. -/
  mem_iff : ∀ place, place ∈ places ↔
    t'.node? place = some .directory ∧ t.node? place ≠ some .directory
  /-- What a directory is in was there before, or it is told before. -/
  parent_first : ∀ before name dir after, places = before ++ (name :: dir) :: after →
    t.node? dir = some .directory ∨ dir ∈ before

/-- Under an absolute root every target is absolute. -/
theorem isAbsolute_join_of_root {root : Path} (hroot : root.isAbsolute = true) (p : Path) :
    (root.join p).isAbsolute = true := by
  by_cases hp : p.isAbsolute = true
  · rw [Path.join_of_isAbsolute root p hp, hp]
  · rw [Path.isAbsolute_join (by simpa using hp) (Path.isAbsolute_iff.1 hroot).1, hroot]

/-- **The report on directories is exact.** If no target has two dots, a generation that succeeds
under an absolute root reports the directories that are new, whatever links there are. -/
theorem reportsNew_of_write (hroot : r.settings.root.isAbsolute = true)
    (hdown : ∀ file ∈ files, Component.up ∉ (r.settings.root.join file.path).components)
    (h : ((r.write (FileTree.disk cwd) files).run t).1.2 = .ok report) :
    ∃ places, ReportsNew r report t ((r.write (FileTree.disk cwd) files).run t).2 cwd places := by
  have hcourse := course_write r files t cwd
  generalize (r.write (FileTree.disk cwd) files).run t = outcome at hcourse h ⊢
  cases hcourse with
  | refused => simp at h
  | stopped => simp at h
  | brokenOff => simp at h
  | @finished made written t₁ t' events hfirst hprepared hmake hwrite =>
    obtain rfl := Except.ok.inj h
    have htargets : ∀ p ∈ (r.targets files).map Target.path, p.isAbsolute = true ∧ KeepsDown p := by
      intro p hp
      obtain ⟨target, htarget, rfl⟩ := List.mem_map.1 hp
      obtain ⟨file, hfile, rfl⟩ := mem_targets.1 htarget
      have hmoves : ['.', '.'] ∉ (r.settings.root.join file.path).moves := fun hup =>
        hdown file hfile (Path.up_mem_components.2 hup)
      exact ⟨isAbsolute_join_of_root hroot file.path, keepsDown_iff.2 hmoves⟩
    obtain ⟨places, hraised, habs, hleads⟩ := raised_of_makeParents _ htargets hmake
    have hwrote := wrote_of_run hwrite
    have hgrows : t₁.Grows t' := by
      have hleads : GrowsBy cwd [] ((contents (r.targets files)).map Prod.fst) t₁ _ :=
        leads_writeFiles (contents (r.targets files)) (fun _ hfile => List.mem_map_of_mem hfile) t₁
      rw [hwrite] at hleads
      exact hleads.grows
    -- The paths told have lost the root, which changes no directory that they name.
    have hnames : List.Forall₂ (fun dir place => t'.NamesDirectory cwd (r.settings.root.join dir) place)
        (made.map fun dir => (r.settings.root.below? dir).getD dir) places := by
      refine List.forall₂_map_left_iff.2 (((List.forall₂_and_left made places).2 ⟨habs, hleads⟩).imp ?_)
      rintro dir place ⟨hdir, hplace⟩
      obtain ⟨hjoin, hmoves⟩ := Path.join_getD_below? hroot hdir
      exact (namesDirectory_congr hmoves (hjoin.trans hdir.symm)).2
        (namesDirectory_of_locate (hplace.grows hgrows))
    refine ⟨places, hnames, ?_, hraised.nodup, fun place => ?_, hraised.directory_or_mem⟩
    · exact ((List.forall₂_and_left _ places).1
        (hnames.imp fun _ _ hname => ⟨hname.isDirectory, hname⟩)).1
    · rw [hwrote.sameDirectories place, hraised.node?_eq]
      by_cases hplace : place ∈ places
      · simp [hplace, hraised.node?_of_mem hplace]
      · simp [hplace]

/-- A resource in a project whose root is to be made. -/
def newcomer : Resource :=
  { byDefault "user" .model isModelName_user with settings := { root := ⟨"/p"⟩ } }

/-- A tree with a directory `q` and a link `l` to it. -/
def besideLink : FileTree :=
  (FileTree.empty.put "q" [] .directory).put "l" [] (.link ⟨"/q"⟩)

/-- Files under the root, one of them with an absolute path, and one beside it. -/
def scattered : List PlannedFile :=
  [⟨⟨"a/b/x"⟩, "one", .model, []⟩, ⟨⟨"/p//a/./c/y"⟩, "two", .route, []⟩,
    ⟨⟨"/l/d/z"⟩, "three", .controller, []⟩]

/-- The root is reported as the empty path, and what is beside it with its absolute path. -/
def scatteredReport : Report :=
  ⟨[⟨""⟩, ⟨"a"⟩, ⟨"a/b"⟩, ⟨"a/./c"⟩, ⟨"/l/d"⟩], scattered.map PlannedFile.path⟩

theorem write_scattered :
    ((newcomer.write (FileTree.disk []) scattered).run besideLink).1.2 = .ok scatteredReport :=
  eq_ok_of_toOption (by decide +kernel)

theorem reportsNew_scattered :
    (newcomer.settings.root.isAbsolute = true ∧
      (∀ file ∈ scattered, Component.up ∉ (newcomer.settings.root.join file.path).components) ∧
      ((newcomer.write (FileTree.disk []) scattered).run besideLink).1.2 = .ok scatteredReport) ∧
    ∃ places, ReportsNew newcomer scatteredReport besideLink
      ((newcomer.write (FileTree.disk []) scattered).run besideLink).2 [] places := by
  have hroot : newcomer.settings.root.isAbsolute = true := rfl
  have hdown : ∀ file ∈ scattered,
      Component.up ∉ (newcomer.settings.root.join file.path).components := by decide +kernel
  exact ⟨⟨hroot, hdown, write_scattered⟩, reportsNew_of_write hroot hdown write_scattered⟩

end Resource

end CrudScaffold
