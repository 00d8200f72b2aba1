import CrudScaffold.Proofs.FileTree.Disk
import CrudScaffold.Proofs.Path
import CrudScaffold.Settings.Load

set_option autoImplicit false

/-! # Reading settings

What is loaded depends on the first file among the candidates and on nothing else of the disk
(`Settings.run_load`). Without a file of the user's choice there is one candidate if the root of the
project is absolute. If it is relative, the own file of the project is only the first candidate, and a
project without one takes the file of a directory above (`Settings.readsOnlyOwnFile_iff`). -/

namespace CrudScaffold

/-! ## Files on a tree -/

/-- The content of a node that is a file. -/
def Node.content? : Node → Option Text
  | file content => some content
  | _ => none

namespace FileTree

variable {t t' : FileTree} {cwd place dir : Place} {name old new : Text} {p q : Path} {paths : List Path}

/-- What a path leads to, with links followed. -/
def found? (t : FileTree) (cwd : Place) (p : Path) : Option Node :=
  match t.locate cwd .follow p with
  | .node _ node => some node
  | _ => none

/-- The first file of a list of paths, with its content. -/
def firstFile? (t : FileTree) (cwd : Place) (paths : List Path) : Option (Path × Text) :=
  paths.findSome? fun p => (t.read? cwd p).map (p, ·)

theorem read?_eq_bind (t : FileTree) (cwd : Place) (p : Path) :
    t.read? cwd p = (t.found? cwd p).bind Node.content? := by
  unfold read? found?
  cases t.locate cwd .follow p with
  | node place node => cases node <;> rfl
  | vacant name dir => rfl
  | failed error => rfl

theorem firstFile?_congr (h : ∀ p ∈ paths, t.read? cwd p = t'.read? cwd p) :
    t.firstFile? cwd paths = t'.firstFile? cwd paths := by
  induction paths with
  | nil => rfl
  | cons p paths ih =>
    obtain ⟨hp, hpaths⟩ := List.forall_mem_cons.1 h
    unfold firstFile? at ih ⊢
    rw [List.findSome?_cons, List.findSome?_cons, hp, ih hpaths]

theorem firstFile?_eq_none (h : ∀ p ∈ paths, t.read? cwd p = none) : t.firstFile? cwd paths = none := by
  unfold firstFile?
  rw [List.findSome?_eq_none_iff]
  intro p hp
  rw [h p hp, Option.map_none]

/-! ## Other texts in files -/

theorem Grows.exists_found? {node : Node} (h : t.Grows t') (hfound : t.found? cwd p = some node) :
    ∃ node', t'.found? cwd p = some node' ∧ node'.shape = node.shape := by
  unfold found? at hfound ⊢
  split at hfound
  · next place _ hl =>
    obtain rfl := Option.some.inj hfound
    obtain ⟨node', hl', hshape⟩ := h.locate_node hl
    exact ⟨node', by rw [hl'], hshape⟩
  · cases hfound

/-- Two trees of which each grows into the other one differ in the texts of files only. -/
theorem Grows.map_shape_found? (h : t.Grows t') (h' : t'.Grows t) (cwd : Place) (p : Path) :
    (t'.found? cwd p).map Node.shape = (t.found? cwd p).map Node.shape := by
  cases hfound : t.found? cwd p with
  | some node =>
    obtain ⟨node', hfound', hshape⟩ := h.exists_found? hfound
    rw [hfound', Option.map_some, Option.map_some, hshape]
  | none =>
    cases hfound' : t'.found? cwd p with
    | none => rfl
    | some node =>
      obtain ⟨node', hback, -⟩ := h'.exists_found? hfound'
      rw [hfound] at hback
      cases hback

theorem Grows.found?_of_read?_eq_none (h : t.Grows t') (h' : t'.Grows t)
    (hq : t.read? cwd q = none) : t'.found? cwd q = t.found? cwd q := by
  have hshape := h.map_shape_found? h' cwd q
  rw [read?_eq_bind] at hq
  cases hfound : t.found? cwd q with
  | none => simpa [hfound] using hshape
  | some node =>
    rw [hfound, Option.map_some, Option.map_eq_some_iff] at hshape
    obtain ⟨node', hfound', hsame⟩ := hshape
    rw [hfound']
    cases node with
    | directory => rw [Node.shape_eq_directory hsame]
    | link target => rw [Node.shape_eq_link hsame]
    | file content => simp [hfound, Node.content?] at hq

theorem grows_rewrite (hold : t.node? (name :: dir) = some (.file old)) (new : Text) :
    t.Grows (t.put name dir (.file new)) ∧ (t.put name dir (.file new)).Grows t := by
  have hdir : t.node? dir = some .directory := node?_parent hold
  have hput := fun q => node?_put t name dir q (.file new) hdir (by simp [hold])
  refine ⟨grows_put hdir (by simp) fun node hn => ⟨old, ?_, new, rfl⟩, fun q node hn => ?_, fun q target hl => ?_⟩
  · exact Option.some.inj (hn.symm.trans hold)
  · rw [hput] at hn
    split at hn
    · next e =>
      obtain rfl := Option.some.inj hn
      exact ⟨.file old, e ▸ hold, rfl⟩
    · exact ⟨node, hn, rfl⟩
  · rw [hput]
    split
    · next e => simp [e, hold] at hl
    · exact hl

/-- A file that is read could have another text, with all that is no file as it is. -/
theorem exists_rewritten (h : t.read? cwd p = some old) (new : Text) :
    ∃ t' : FileTree, t'.read? cwd p = some new ∧
      ∀ q, t.read? cwd q = none → t'.found? cwd q = t.found? cwd q := by
  unfold read? at h
  split at h
  · next place content hl =>
    have hold := node?_of_locate hl
    cases place with
    | nil => simp at hold
    | cons name dir =>
      obtain ⟨hgrows, hback⟩ := grows_rewrite hold new
      have hnew : (t.put name dir (.file new)).node? (name :: dir) = some (.file new) := by
        rw [node?_put t name dir _ _ (node?_parent hold) (by simp [hold]), if_pos rfl]
      refine ⟨t.put name dir (.file new), ?_, fun q => hgrows.found?_of_read?_eq_none hback⟩
      have hl' := hgrows.locate_of_place? (by rw [hl, place?]) hnew
      unfold read?
      rw [hl']
  · simp at h

theorem exists_firstFile?_eq (h : t.firstFile? cwd paths = some (p, old)) (new : Text) :
    ∃ t' : FileTree, t'.firstFile? cwd paths = some (p, new) ∧
      ∀ q, t.read? cwd q = none → t'.found? cwd q = t.found? cwd q := by
  unfold firstFile? at h
  obtain ⟨before, q, after, rfl, hq, hbefore⟩ := List.findSome?_eq_some_iff.1 h
  obtain ⟨text, htext, hpair⟩ := Option.map_eq_some_iff.1 hq
  obtain ⟨rfl, rfl⟩ := Prod.mk.inj hpair
  obtain ⟨t', hread, hsame⟩ := exists_rewritten htext new
  refine ⟨t', List.findSome?_eq_some_iff.2 ⟨before, q, after, rfl, by rw [hread]; rfl, fun p hp => ?_⟩, hsame⟩
  have hnone : t.read? cwd p = none := Option.map_eq_none_iff.1 (hbefore p hp)
  rw [read?_eq_bind, hsame p hnone, ← read?_eq_bind, hnone]
  rfl

end FileTree

/-! ## Wrong types -/

namespace Setting

/-- Whether reading a value can fail for its type only. -/
def FailsByType {α : Type} (result : Except SettingsError α) : Prop := result ≠ .error .malformed

section FailsByType

variable {α β : Type} {result : Except SettingsError α} {f : α → Except SettingsError β}

theorem failsByType_ok (a : α) : FailsByType (.ok a) := by
  intro h
  cases h

theorem FailsByType.bind (hresult : FailsByType result) (hf : ∀ a, FailsByType (f a)) :
    FailsByType (result >>= f) := by
  cases result with
  | ok a => exact hf a
  | error error => exact fun h => hresult (congrArg _ (Except.error.inj h))

theorem FailsByType.map (g : α → β) (hresult : FailsByType result) :
    FailsByType (result.map g) := by
  cases result with
  | ok a => exact failsByType_ok (g a)
  | error error => exact fun h => hresult (congrArg _ (Except.error.inj h))

end FailsByType

theorem failsByType_text (expected : Text) (key : List Text) (s : Setting) :
    FailsByType (s.text expected key) := by
  unfold text
  split
  · exact failsByType_ok _
  · intro h
    cases h

theorem failsByType_textAt (expected : Text) (path : List Text) (key default : Text)
    (entries : List (Text × Setting)) : FailsByType (textAt expected path key default entries) := by
  unfold textAt
  split
  · exact failsByType_ok _
  · exact failsByType_text _ _ _

theorem failsByType_layoutPath (key : Text) (default : Path) (entries : List (Text × Setting)) :
    FailsByType (layoutPath key default entries) :=
  (failsByType_textAt _ _ _ _ _).map Path.mk

theorem failsByType_layoutItem (index : Nat) (default : Path) (items : List Setting) :
    FailsByType (layoutItem index default items) := by
  unfold layoutItem
  split
  · exact failsByType_ok _
  · exact (failsByType_text _ _ _).map Path.mk

theorem failsByType_layout (s : Setting) : FailsByType s.layout := by
  cases s with
  | scalar origin value =>
    intro h
    cases h
  | list origin items =>
    unfold layout layoutOfList
    repeat' refine (failsByType_layoutItem _ _ _).bind fun _ => ?_
    exact failsByType_ok _
  | table origin entries =>
    unfold layout layoutOfTable
    repeat' refine (failsByType_layoutPath _ _ _).bind fun _ => ?_
    exact failsByType_ok _

theorem failsByType_settings (entries : List (Text × Setting)) : FailsByType (settings entries) := by
  unfold settings
  refine (failsByType_textAt _ _ _ _ _).bind fun extension => ?_
  dsimp only
  split
  · exact (failsByType_ok _).bind fun layout =>
      (failsByType_textAt _ _ _ _ _).bind fun root => failsByType_ok _
  · exact (failsByType_layout _).bind fun layout =>
      (failsByType_textAt _ _ _ _ _).bind fun root => failsByType_ok _

end Setting

namespace Settings

theorem failsByType_ofLayers (root : Path) (file environment : Setting) :
    Setting.FailsByType (ofLayers root file environment) :=
  (Setting.failsByType_settings _).bind fun _ => Setting.failsByType_ok _

/-! ## The outcome of loading -/

/-- The layer of the file that was found, if one was, unless its text cannot be taken in. -/
def foundLayer? (cwd : Path) : Option (Path × Text) → Option Setting
  | none => some (.table .builtIn [])
  | some (found, content) =>
    let origin := Origin.file (Path.shownFrom cwd found)
    ((Toml.read? content).bind (Setting.ofTomlEntries? origin)).map (.table origin)

/-- What is loaded once a file was found or was not. -/
def outcome (cwd root : Path) (environment : List (Text × Text)) (found? : Option (Path × Text)) :
    Except SettingsError Settings :=
  match foundLayer? cwd found? with
  | none => .error .malformed
  | some file => ofLayers root file (Environment.layer environment)

variable {t t' : FileTree} {place : Place} {cwd root p : Path} {file? : Option Path}
  {environment : List (Text × Text)}

theorem run_firstFile? (t : FileTree) (place : Place) (paths : List Path) :
    (firstFile? (FileTree.disk place) paths).run t = (t.firstFile? place paths, t) := by
  induction paths with
  | nil => rfl
  | cons p paths ih =>
    have hread : ((FileTree.disk place).read? p).run t = (t.read? place p, t) := rfl
    rw [firstFile?, FileTree.run_bind, hread, FileTree.firstFile?, List.findSome?_cons]
    cases t.read? place p with
    | none => exact ih
    | some content => rfl

/-- **What is loaded** depends on the first file among the candidates, and the disk stays as it is. -/
theorem run_load (t : FileTree) (place : Place) (cwd root : Path) (file? : Option Path)
    (environment : List (Text × Text)) :
    (load (FileTree.disk place) cwd root file? environment).run t =
      (outcome cwd root environment
        (t.firstFile? place (candidates cwd (file?.getD (root.join fileName)))), t) := by
  unfold load fileLayer outcome
  rw [FileTree.run_bind, FileTree.run_bind, run_firstFile?]
  cases t.firstFile? place (candidates cwd (file?.getD (root.join fileName))) with
  | none => rfl
  | some found =>
    obtain ⟨found, content⟩ := found
    simp only [foundLayer?]
    cases (Toml.read? content).bind (Setting.ofTomlEntries? (.file (Path.shownFrom cwd found))) with
    | none => rfl
    | some entries => rfl

/-! ## The own file of a project -/

/-- The path of the own file of a project. -/
def ownFile (cwd root : Path) : Path := cwd.join (root.join fileName)

theorem candidates_eq_cons (cwd p : Path) :
    ∃ above, candidates cwd p = cwd.join p :: above ∧ (p.isAbsolute = true → above = []) := by
  unfold candidates
  split
  · next habs => exact ⟨[], by rw [Path.join_of_isAbsolute cwd p habs], fun _ => rfl⟩
  · next hrel => exact ⟨cwd.parents.map (·.join p), rfl, fun habs => absurd habs hrel⟩

theorem isAbsolute_join_fileName (h : root.isAbsolute = true) :
    (root.join fileName).isAbsolute = true := by
  have hne : root.text ≠ [] := (Path.isAbsolute_iff.1 h).1
  rw [Path.isAbsolute_join rfl hne, h]

/-- A text that is no document is told from an empty one by every environment. -/
theorem outcome_malformed_ne_empty (cwd root found : Path) (environment : List (Text × Text)) :
    outcome cwd root environment (some (found, "=")) ≠ outcome cwd root environment (some (found, "")) := by
  have hmalformed : outcome cwd root environment (some (found, "=")) = .error .malformed := rfl
  have hempty : outcome cwd root environment (some (found, "")) =
      ofLayers root (.table (.file (Path.shownFrom cwd found)) []) (Environment.layer environment) := rfl
  rw [hmalformed, hempty]
  exact fun h => failsByType_ofLayers _ _ _ h.symm

/-- Whether what is loaded for a project, without a file of the user's choice, depends on nothing on
the disk but what is at the path of the project's own file. -/
def ReadsOnlyOwnFile (cwd : Place) (root : Path) (environment : List (Text × Text)) : Prop :=
  ∀ t t' : FileTree,
    t.found? cwd (ownFile cwd.path root) = t'.found? cwd (ownFile cwd.path root) →
      ((load (FileTree.disk cwd) cwd.path root none environment).run t).1 =
        ((load (FileTree.disk cwd) cwd.path root none environment).run t').1

/-- **Whose file is read.** Nothing on the disk matters but the candidates. The own file of the project is
the only one that matters exactly if no other candidate can be a file where it is none; that is so if the
root of the project is absolute. -/
theorem readsOnlyOwnFile_iff (cwd : Place) (root : Path) (environment : List (Text × Text)) :
    (∀ t t' : FileTree,
      (∀ p ∈ candidates cwd.path (root.join fileName), t.read? cwd p = t'.read? cwd p) →
        ((load (FileTree.disk cwd) cwd.path root none environment).run t).1 =
          ((load (FileTree.disk cwd) cwd.path root none environment).run t').1) ∧
    (ReadsOnlyOwnFile cwd root environment ↔
      ∀ t : FileTree, t.read? cwd (ownFile cwd.path root) = none →
        ∀ p ∈ candidates cwd.path (root.join fileName), t.read? cwd p = none) ∧
    (root.isAbsolute = true → ReadsOnlyOwnFile cwd root environment) := by
  obtain ⟨above, hcandidates, habove⟩ := candidates_eq_cons cwd.path (root.join fileName)
  rw [← ownFile] at hcandidates
  have hiff : ReadsOnlyOwnFile cwd root environment ↔
      ∀ t : FileTree, t.read? cwd (ownFile cwd.path root) = none →
        ∀ p ∈ candidates cwd.path (root.join fileName), t.read? cwd p = none := by
    constructor
    · intro honly t hown p hp
      cases hfirst : t.firstFile? cwd (candidates cwd.path (root.join fileName)) with
      | none =>
        unfold FileTree.firstFile? at hfirst
        exact Option.map_eq_none_iff.1 (List.findSome?_eq_none_iff.1 hfirst p hp)
      | some found =>
        -- The text of the file that is found decides, and it is not the own file of the project.
        obtain ⟨found, content⟩ := found
        obtain ⟨t₁, hfirst₁, hsame₁⟩ := FileTree.exists_firstFile?_eq hfirst "="
        obtain ⟨t₂, hfirst₂, hsame₂⟩ := FileTree.exists_firstFile?_eq hfirst ""
        have hload := honly t₁ t₂ ((hsame₁ _ hown).trans (hsame₂ _ hown).symm)
        rw [run_load, run_load, Option.getD_none, hfirst₁, hfirst₂] at hload
        exact absurd hload (outcome_malformed_ne_empty _ _ _ _)
    · intro h t t' hsame
      have hread : t.read? cwd (ownFile cwd.path root) = t'.read? cwd (ownFile cwd.path root) := by
        rw [FileTree.read?_eq_bind, FileTree.read?_eq_bind, hsame]
      have hfirst : t.firstFile? cwd (candidates cwd.path (root.join fileName)) =
          t'.firstFile? cwd (candidates cwd.path (root.join fileName)) := by
        cases hown : t.read? cwd (ownFile cwd.path root) with
        | none =>
          rw [FileTree.firstFile?_eq_none (h t hown),
            FileTree.firstFile?_eq_none (h t' (hread.symm.trans hown))]
        | some content =>
          unfold FileTree.firstFile?
          rw [hcandidates, List.findSome?_cons, List.findSome?_cons, ← hread, hown]
          rfl
      rw [run_load, run_load, Option.getD_none, hfirst]
  refine ⟨fun t t' h => ?_, hiff, fun habs => hiff.2 fun t hown p hp => ?_⟩
  · rw [run_load, run_load, Option.getD_none, FileTree.firstFile?_congr h]
  · rw [hcandidates, habove (isAbsolute_join_fileName habs), List.mem_singleton] at hp
    rw [hp, hown]

/-- A tree with a directory `app` and a file of settings beside it. -/
def shadowed : FileTree :=
  (FileTree.empty.put "app" [] .directory).put "crudgen.toml" [] (.file "extension = \"ts\"")

/-- A project in the current directory that has no file of its own takes the one above. -/
theorem not_readsOnlyOwnFile_here : ¬ReadsOnlyOwnFile ["app"] ⟨"."⟩ [] := by
  intro h
  have hagree : shadowed.found? ["app"] (ownFile (Place.path ["app"]) ⟨"."⟩) =
      (FileTree.empty.put "app" [] .directory).found? ["app"]
        (ownFile (Place.path ["app"]) ⟨"."⟩) := by decide +kernel
  have hload := h _ _ hagree
  rw [run_load, run_load] at hload
  have hext := congrArg (fun result => result.toOption.map Settings.extension) hload
  revert hext
  decide +kernel

end Settings

end CrudScaffold
