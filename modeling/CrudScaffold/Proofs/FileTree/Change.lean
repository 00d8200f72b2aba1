import CrudScaffold.Proofs.FileTree.Growth

set_option autoImplicit false

/-! # Making directories and writing files

What the two changes of a generation do to a tree. Both make it grow, and whatever is new afterwards
is what the path leads to (`FileTree.GrowsBy`). Where a file is written to is its destination; no
write changes the destination of any path (`FileTree.destination?_of_writeFile`). -/

namespace CrudScaffold

namespace FileTree

variable {t t' t'' : FileTree} {purpose : Purpose} {cwd dir place : Place} {name : Text} {p q : Path}

/-! ## Growing along paths -/

/-- The place that a landing is about. -/
def place? : Landing → Option Place
  | .node place _ => some place
  | .vacant name dir => some (name :: dir)
  | .failed _ => none

/-- Once something stands where a path leads, the path leads to it. -/
theorem Grows.locate_of_place? (h : t.Grows t') {node : Node}
    (hl : place? (t.locate cwd purpose p) = some place) (hn : t'.node? place = some node) :
    t'.locate cwd purpose p = .node place node := by
  have hbecome := h.locate cwd purpose p
  cases hloc : t.locate cwd purpose p with
  | node place' old =>
    rw [hloc] at hl hbecome
    obtain ⟨node', hl', -⟩ := hbecome
    obtain rfl := Option.some.inj hl
    rw [hl', Option.some.inj ((node?_of_locate hl').symm.trans hn)]
  | vacant name dir =>
    rw [hloc] at hl hbecome
    obtain rfl := Option.some.inj hl
    rcases hbecome with hl' | ⟨node', hl'⟩
    · simp [(node?_of_locate_vacant hl').2] at hn
    · rw [hl', Option.some.inj ((node?_of_locate hl').symm.trans hn)]
  | failed error => simp [hloc, place?] at hl

/-- A tree grows into another one, and what is new in it is where some paths lead: directories at
some, the contents of files at others. -/
structure GrowsBy (cwd : Place) (dirs files : List Path) (t t' : FileTree) : Prop where
  grows : t.Grows t'
  directory : ∀ place, t'.node? place = some .directory →
    t.node? place = some .directory ∨ ∃ p ∈ dirs, t'.locate cwd .follow p = .node place .directory
  file : ∀ place content, t'.node? place = some (.file content) →
    t.node? place = some (.file content) ∨
      ∃ p ∈ files, t'.locate cwd .follow p = .node place (.file content)

variable {dirs dirs' files files' : List Path}

theorem GrowsBy.refl (t : FileTree) : GrowsBy cwd dirs files t t :=
  ⟨.refl t, fun _ h => Or.inl h, fun _ _ h => Or.inl h⟩

theorem GrowsBy.trans (h : GrowsBy cwd dirs files t t') (h' : GrowsBy cwd dirs files t' t'') :
    GrowsBy cwd dirs files t t'' where
  grows := h.grows.trans h'.grows
  directory place hd := by
    rcases h'.directory place hd with hd' | hp
    · rcases h.directory place hd' with hd'' | ⟨p, hp, hl⟩
      · exact Or.inl hd''
      · exact Or.inr ⟨p, hp, h'.grows.locate_directory hl⟩
    · exact Or.inr hp
  file place content hf := by
    rcases h'.file place content hf with hf' | hp
    · rcases h.file place content hf' with hf'' | ⟨p, hp, hl⟩
      · exact Or.inl hf''
      · exact Or.inr ⟨p, hp, h'.grows.locate_of_place? (by rw [hl, place?]) hf⟩
    · exact Or.inr hp

theorem GrowsBy.mono (h : GrowsBy cwd dirs files t t') (hd : ∀ p ∈ dirs, p ∈ dirs')
    (hf : ∀ p ∈ files, p ∈ files') : GrowsBy cwd dirs' files' t t' where
  grows := h.grows
  directory place hn := (h.directory place hn).imp_right fun ⟨p, hp, hl⟩ => ⟨p, hd p hp, hl⟩
  file place content hn := (h.file place content hn).imp_right fun ⟨p, hp, hl⟩ => ⟨p, hf p hp, hl⟩

/-- Whether two trees have the same files with the same contents. -/
def SameFiles (t t' : FileTree) : Prop :=
  ∀ place content, t'.node? place = some (.file content) ↔ t.node? place = some (.file content)

theorem SameFiles.refl (t : FileTree) : t.SameFiles t := fun _ _ => Iff.rfl

/-- Growing by directories only leaves all files as they are. -/
theorem GrowsBy.sameFiles (h : GrowsBy cwd dirs [] t t') : t.SameFiles t' := by
  have hold : ∀ place content, t'.node? place = some (.file content) →
      t.node? place = some (.file content) := by
    intro place content hf
    rcases h.file place content hf with hf | ⟨p, hp, -⟩
    · exact hf
    · simp at hp
  refine fun place content => ⟨hold place content, fun hf => ?_⟩
  obtain ⟨content', hf'⟩ := h.grows.file hf
  have hsame := hold place content' hf'
  rw [hf] at hsame
  rw [hf', hsame]

/-! ## Making a directory -/

theorem makeDirectory_eq_ok (h : t.makeDirectory cwd p = .ok t') :
    ∃ name dir, t.locate cwd .make p = .vacant name dir ∧ t' = t.put name dir .directory := by
  rw [makeDirectory] at h
  split at h
  · simp at h
  · next name dir hl => exact ⟨name, dir, hl, (Except.ok.inj h).symm⟩
  · simp at h

theorem growsBy_makeDirectory (h : t.makeDirectory cwd p = .ok t') :
    GrowsBy cwd [p] [] t t' := by
  obtain ⟨name, dir, hl, rfl⟩ := makeDirectory_eq_ok h
  obtain ⟨hdir, hnone⟩ := node?_of_locate_vacant hl
  have hput := fun place => node?_put t name dir place .directory hdir (by simp [hnone])
  have hgrows : t.Grows (t.put name dir .directory) :=
    grows_put hdir (by simp) (fun old ho => by simp [hnone] at ho)
  refine ⟨hgrows, fun place hd => ?_, fun place content hf => ?_⟩
  · rw [hput] at hd
    split at hd
    · next e =>
      subst e
      refine Or.inr ⟨p, List.mem_singleton_self p, locate_follow_of_make ?_⟩
      exact hgrows.locate_of_place? (by rw [hl, place?]) (by rw [hput, if_pos rfl])
    · exact Or.inl hd
  · rw [hput] at hf
    split at hf
    · simp at hf
    · exact Or.inl hf

/-! ## Writing a file -/

/-- The place of the file that is written when a path is written to, be it there or not. -/
def destination? (t : FileTree) (cwd : Place) (p : Path) : Option Place :=
  match t.locate cwd .write p with
  | .node place (.file _) => some place
  | .vacant name dir => some (name :: dir)
  | _ => none

theorem locate_follow_of_destination? (h : t.destination? cwd p = some place) :
    t.locate cwd .follow p = t.locate cwd .write p ∧ place? (t.locate cwd .write p) = some place := by
  rw [destination?] at h
  split at h
  · next place' content hl =>
    obtain rfl := Option.some.inj h
    refine ⟨locate_follow (by simp) ?_, by rw [hl, place?]⟩
    simp [hl, IsOfPurpose]
  · next name dir hl =>
    obtain rfl := Option.some.inj h
    refine ⟨locate_follow (by simp) ?_, by rw [hl, place?]⟩
    simp [hl, IsOfPurpose]
  · simp at h

theorem locate_follow_of_node? {content : Text} (h : t.destination? cwd p = some place)
    (hn : t.node? place = some (.file content)) :
    t.locate cwd .follow p = .node place (.file content) := by
  obtain ⟨hfollow, hplace⟩ := locate_follow_of_destination? h
  exact (Grows.refl t).locate_of_place? (by rw [hfollow, hplace]) hn

/-- A destination is a name in a directory at which there is nothing or a file. -/
theorem node?_of_destination? (h : t.destination? cwd p = some place) :
    ∃ name dir, place = name :: dir ∧ t.node? dir = some .directory ∧
      (t.node? (name :: dir) = none ∨ ∃ content, t.node? (name :: dir) = some (.file content)) := by
  rw [destination?] at h
  split at h
  · next place' content hl =>
    obtain rfl := Option.some.inj h
    have hn := node?_of_locate hl
    cases place' with
    | nil => simp at hn
    | cons name dir => exact ⟨name, dir, rfl, node?_parent hn, Or.inr ⟨content, hn⟩⟩
  · next name dir hl =>
    obtain rfl := Option.some.inj h
    obtain ⟨hd, hn⟩ := node?_of_locate_vacant hl
    exact ⟨name, dir, rfl, hd, Or.inl hn⟩
  · simp at h

theorem writeFile_of_destination? (h : t.destination? cwd p = some place) (content : Text) :
    ∃ t', t.writeFile cwd p content = .ok t' ∧ t.Grows t' ∧
      ∀ q, t'.node? q = if q = place then some (.file content) else t.node? q := by
  obtain ⟨name, dir, rfl, hdir, hname⟩ := node?_of_destination? h
  have hdirectory : t.node? (name :: dir) ≠ some .directory := by
    rcases hname with hn | ⟨old, hn⟩ <;> simp [hn]
  refine ⟨t.put name dir (.file content), ?_, grows_put hdir (by simp) ?_,
    fun q => node?_put t name dir q _ hdir hdirectory⟩
  · rw [destination?] at h
    rw [writeFile]
    split at h
    · next place' old hl =>
      obtain rfl := Option.some.inj h
      rw [hl]
    · next name' dir' hl =>
      obtain ⟨rfl, rfl⟩ := List.cons.inj (Option.some.inj h)
      rw [hl]
    · simp at h
  · intro old ho
    rcases hname with hn | ⟨content', hn⟩
    · simp [hn] at ho
    · exact ⟨content', Option.some.inj (ho.symm.trans hn), content, rfl⟩

theorem writeFile_of_destination?_eq_none (h : t.destination? cwd p = none) (content : Text) :
    ∃ error, t.writeFile cwd p content = .error error := by
  rw [destination?] at h
  rw [writeFile]
  split at h
  · simp at h
  · simp at h
  · next hfile hvacant =>
    split
    · next name dir old hl => exact absurd hl (hfile _ _)
    · exact ⟨_, rfl⟩
    · next name dir hl => exact absurd hl (hvacant _ _)
    · exact ⟨_, rfl⟩

theorem writeFile_eq_ok {content : Text} (h : t.writeFile cwd p content = .ok t') :
    ∃ place, t.destination? cwd p = some place ∧ t.Grows t' ∧
      ∀ q, t'.node? q = if q = place then some (.file content) else t.node? q := by
  cases hd : t.destination? cwd p with
  | none =>
    obtain ⟨error, he⟩ := writeFile_of_destination?_eq_none hd content
    simp [he] at h
  | some place =>
    obtain ⟨t'', ht, hgrows, hnode⟩ := writeFile_of_destination? hd content
    rw [ht] at h
    obtain rfl := Except.ok.inj h
    exact ⟨place, rfl, hgrows, hnode⟩

theorem growsBy_writeFile {content : Text} (h : t.writeFile cwd p content = .ok t') :
    GrowsBy cwd [] [p] t t' := by
  obtain ⟨place, hd, hgrows, hnode⟩ := writeFile_eq_ok h
  obtain ⟨hfollow, hplace⟩ := locate_follow_of_destination? hd
  refine ⟨hgrows, fun q hq => ?_, fun q old hq => ?_⟩
  · rw [hnode] at hq
    split at hq
    · simp at hq
    · exact Or.inl hq
  · rw [hnode] at hq
    split at hq
    · next e =>
      subst e
      refine Or.inr ⟨p, List.mem_singleton_self p, hgrows.locate_of_place? ?_ ?_⟩
      · rw [hfollow, hplace]
      · rw [hnode, if_pos rfl, hq]
    · exact Or.inl hq

/-- Writing to one path changes the destination of none. -/
theorem destination?_of_writeFile {content : Text} (h : t.writeFile cwd p content = .ok t')
    (q : Path) : t'.destination? cwd q = t.destination? cwd q := by
  obtain ⟨place, -, hgrows, hnode⟩ := writeFile_eq_ok h
  have hdirs : ∀ place, t'.node? place = some .directory → t.node? place = some .directory := by
    intro other hd
    rw [hnode] at hd
    split at hd
    · simp at hd
    · exact hd
  have hbecome := hgrows.locate cwd .write q
  rw [destination?, destination?]
  cases hl : t.locate cwd .write q with
  | node other node =>
    rw [hl] at hbecome
    obtain ⟨node', hl', hs⟩ := hbecome
    rw [hl']
    cases node <;> cases node' <;> simp_all [Node.shape]
  | vacant name dir =>
    rw [hl] at hbecome
    rcases hbecome with hl' | ⟨node, hl'⟩
    · rw [hl']
    · -- What was vacant can only have become the file that was written.
      have hn := node?_of_locate hl'
      rw [hnode, (node?_of_locate_vacant hl).2] at hn
      split at hn
      · obtain rfl := Option.some.inj hn
        rw [hl']
      · simp at hn
  | failed error =>
    obtain ⟨error', hl'⟩ := hgrows.locate_write_failed hdirs hl
    rw [hl']

end FileTree

end CrudScaffold
