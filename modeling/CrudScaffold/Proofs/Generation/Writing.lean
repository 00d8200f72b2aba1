import CrudScaffold.Proofs.Generation.Phases

set_option autoImplicit false

/-! # What is written

Which files a generation gets to write is settled before it writes the first one: no write changes
where another one goes, or whether it can be made. So the tree after the writing can be read off the
tree before it (`Generation.writeFiles_spec`). -/

namespace CrudScaffold

namespace Generation

open FileTree

variable {t t' : FileTree} {cwd place : Place}

/-- The files that get written: all before the first one that cannot be. -/
def reached (t : FileTree) (cwd : Place) (files : List (Path × Text)) : List (Path × Text) :=
  files.takeWhile fun file => (t.destination? cwd file.1).isSome

/-- The text that the writing of some files leaves at a place: that of the last one that is written
there. -/
def leftAt? (t : FileTree) (cwd : Place) (files : List (Path × Text)) (place : Place) :
    Option Text :=
  ((reached t cwd files).reverse.find? fun file => t.destination? cwd file.1 == some place).map
    Prod.snd

theorem reached_of_none {file : Path × Text} (h : t.destination? cwd file.1 = none)
    (files : List (Path × Text)) : reached t cwd (file :: files) = [] := by
  simp [reached, h]

theorem reached_of_some {file : Path × Text} (h : t.destination? cwd file.1 = some place)
    (files : List (Path × Text)) :
    reached t cwd (file :: files) = file :: reached t cwd files := by
  simp [reached, h]

theorem leftAt?_of_none {file : Path × Text} (h : t.destination? cwd file.1 = none)
    (files : List (Path × Text)) (q : Place) : leftAt? t cwd (file :: files) q = none := by
  simp [leftAt?, reached_of_none h]

/-- Whatever a later file leaves somewhere stays there. -/
theorem leftAt?_of_some {file : Path × Text} (h : t.destination? cwd file.1 = some place)
    (files : List (Path × Text)) (q : Place) :
    leftAt? t cwd (file :: files) q =
      (leftAt? t cwd files q).or (if q = place then some file.2 else none) := by
  rw [leftAt?, reached_of_some h, List.reverse_cons, List.find?_append, Option.map_or, leftAt?]
  by_cases hq : q = place
  · simp [h, hq]
  · have hne : place ≠ q := fun e => hq e.symm
    simp [h, hq, hne]

theorem exists_destination?_of_reached {files : List (Path × Text)} {file : Path × Text}
    (hall : reached t cwd files = files) (hfile : file ∈ files) :
    ∃ place, t.destination? cwd file.1 = some place := by
  have hsome := List.all_takeWhile (p := fun file => (t.destination? cwd file.1).isSome) (l := files)
  rw [← reached, hall, List.all_eq_true] at hsome
  exact Option.isSome_iff_exists.1 (hsome file hfile)

/-- What is left at a place is the text of the last file that is written there. -/
theorem leftAt?_eq_some_iff {files : List (Path × Text)} {content : Text} :
    leftAt? t cwd files place = some content ↔ ∃ before last after,
      reached t cwd files = before ++ last :: after ∧ t.destination? cwd last.1 = some place ∧
        (∀ later ∈ after, t.destination? cwd later.1 ≠ some place) ∧ last.2 = content := by
  rw [leftAt?, Option.map_eq_some_iff]
  constructor
  · rintro ⟨last, hfind, rfl⟩
    obtain ⟨hlast, after, before, hsplit, hafter⟩ := List.find?_eq_some_iff_append.1 hfind
    refine ⟨before.reverse, last, after.reverse, ?_, by simpa using hlast, ?_, rfl⟩
    · rw [← List.reverse_reverse (reached t cwd files), hsplit]
      simp
    · simpa using hafter
  · rintro ⟨before, last, after, hsplit, hlast, hafter, rfl⟩
    refine ⟨last, List.find?_eq_some_iff_append.2
      ⟨by simpa using hlast, after.reverse, before.reverse, by simp [hsplit], ?_⟩, rfl⟩
    simpa using hafter

theorem reached_congr (h : ∀ q, t'.destination? cwd q = t.destination? cwd q)
    (files : List (Path × Text)) : reached t' cwd files = reached t cwd files := by
  simp only [reached, h]

theorem leftAt?_congr (h : ∀ q, t'.destination? cwd q = t.destination? cwd q)
    (files : List (Path × Text)) (q : Place) : leftAt? t' cwd files q = leftAt? t cwd files q := by
  simp only [leftAt?, reached_congr h, h]

/-- What the writing of some files answers and what it leaves behind. -/
structure Wrote (t : FileTree) (cwd : Place) (files : List (Path × Text)) (written : List Path)
    (failure? : Option Failure) (t' : FileTree) : Prop where
  written_eq : written = (reached t cwd files).map Prod.fst
  failure?_eq_none : failure? = none ↔ reached t cwd files = files
  node?_eq : ∀ place, t'.node? place = ((leftAt? t cwd files place).map Node.file).or (t.node? place)
  destination?_eq : ∀ p, t'.destination? cwd p = t.destination? cwd p

theorem writeFiles_spec (files : List (Path × Text)) (cwd : Place) : ∀ t : FileTree,
    Wrote t cwd files ((writeFiles (FileTree.disk cwd) files).run t).1.1
      ((writeFiles (FileTree.disk cwd) files).run t).1.2
      ((writeFiles (FileTree.disk cwd) files).run t).2 := by
  induction files with
  | nil =>
    intro t
    exact ⟨rfl, iff_of_true rfl rfl, fun _ => rfl, fun _ => rfl⟩
  | cons file files ih =>
    -- The rest is written to another tree, but every path has the same destination in it.
    intro t
    obtain ⟨p, content⟩ := file
    rw [writeFiles, run_bind]
    cases hdest : t.destination? cwd p with
    | none =>
      obtain ⟨error, he⟩ := writeFile_of_destination?_eq_none hdest content
      rw [run_writeFile_of_error he]
      refine ⟨?_, ?_, fun place => ?_, fun _ => rfl⟩
      · rw [reached_of_none hdest]
        rfl
      · rw [reached_of_none hdest]
        exact iff_of_false (fun h => by cases h) (by simp)
      · rw [leftAt?_of_none hdest]
        rfl
    | some place =>
      obtain ⟨t₁, hwrite, -, hnode⟩ := writeFile_of_destination? hdest content
      have hsame := destination?_of_writeFile hwrite
      have hrest := ih t₁
      rw [run_writeFile_of_ok hwrite]
      refine ⟨?_, ?_, fun q => ?_, fun q => (hrest.destination?_eq q).trans (hsame q)⟩
      · rw [reached_of_some hdest, ← reached_congr hsame]
        exact congrArg (p :: ·) hrest.written_eq
      · rw [reached_of_some hdest, ← reached_congr hsame]
        exact hrest.failure?_eq_none.trans (by simp)
      · rw [leftAt?_of_some hdest, ← leftAt?_congr hsame]
        refine (hrest.node?_eq q).trans ?_
        rw [hnode]
        cases leftAt? t₁ cwd files q <;> by_cases hq : q = place <;> simp [hq]

theorem wrote_of_run {files : List (Path × Text)} {written : List Path} {failure? : Option Failure}
    (h : (writeFiles (FileTree.disk cwd) files).run t = ((written, failure?), t')) :
    Wrote t cwd files written failure? t' := by
  have hspec := writeFiles_spec files cwd t
  rwa [h] at hspec

end Generation

namespace Resource

open FileTree Generation

/-- The plan of a resource and the tree that it is written to are unique. -/
theorem forall_prepared_iff {r : Resource} {t t₁ : FileTree} {cwd : Place}
    {files : List PlannedFile} (hplan : r.plan = .ok files)
    (hprepared : prepared? t cwd (r.targets files) = some t₁)
    {P : List PlannedFile → FileTree → Prop} :
    (∀ files t₁, r.plan = .ok files → prepared? t cwd (r.targets files) = some t₁ → P files t₁) ↔
      P files t₁ := by
  refine ⟨fun h => h files t₁ hplan hprepared, fun h files' t₂ hplan' hprepared' => ?_⟩
  obtain rfl := Except.ok.inj (hplan.symm.trans hplan')
  obtain rfl := Option.some.inj (hprepared.symm.trans hprepared')
  exact h

/-- A generation ends with the files that were there before it has written any, or it ends with the
writing. -/
theorem run_generate_cases (r : Resource) (t : FileTree) (cwd : Place) :
    (∃ failure, ((r.generate (FileTree.disk cwd)).run t).1.2 = .error failure ∧
      t.SameFiles ((r.generate (FileTree.disk cwd)).run t).2 ∧
      ∀ files, r.plan = .ok files → prepared? t cwd (r.targets files) = none) ∨
    ∃ files t₁ written failure?, r.plan = .ok files ∧ prepared? t cwd (r.targets files) = some t₁ ∧
      Wrote t₁ cwd (contents (r.targets files)) written failure?
        ((r.generate (FileTree.disk cwd)).run t).2 ∧
      ((∃ failure, failure? = some failure ∧
        ((r.generate (FileTree.disk cwd)).run t).1.2 = .error failure) ∨
      ∃ report, failure? = none ∧ report.writtenFiles = files.map PlannedFile.path ∧
        ((r.generate (FileTree.disk cwd)).run t).1.2 = .ok (files, report)) := by
  cases hplan : r.plan with
  | error failure =>
    rw [run_generate_of_error hplan]
    exact Or.inl ⟨failure, rfl, .refl t, fun files h => by simp at h⟩
  | ok files =>
    rw [run_generate_of_ok hplan]
    have hcourse := course_write r files t cwd
    generalize (r.write (FileTree.disk cwd) files).run t = outcome at hcourse ⊢
    cases hcourse with
    | refused hfirst hprepared =>
      refine Or.inl ⟨_, rfl, .refl t, fun files' h => ?_⟩
      rw [← Except.ok.inj h, hprepared]
    | stopped hfirst hprepared hmake =>
      refine Or.inl ⟨_, rfl, (growsBy_of_makeParents hmake).sameFiles, fun files' h => ?_⟩
      rw [← Except.ok.inj h, hprepared]
    | brokenOff hfirst hprepared hmake hwrite =>
      exact Or.inr ⟨files, _, _, _, rfl, hprepared, wrote_of_run hwrite, Or.inl ⟨_, rfl, rfl⟩⟩
    | finished hfirst hprepared hmake hwrite =>
      exact Or.inr ⟨files, _, _, _, rfl, hprepared, wrote_of_run hwrite, Or.inr ⟨_, rfl, rfl, rfl⟩⟩

end Resource

end CrudScaffold
