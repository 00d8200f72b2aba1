import CrudScaffold.Proofs.FileTree.Descent

set_option autoImplicit false

/-! # Naming a directory

Which directory a path names depends on its moves alone (`FileTree.namesDirectory_congr`): dots and
doubled slashes add nothing, with or without links on the way. A disk looks a path up only if its
text is short enough; then it finds the directory that the path names
(`FileTree.NamesDirectory.isDirectory`). -/

namespace CrudScaffold

namespace FileTree

variable {t : FileTree} {cwd dir place : Place} {step : Text} {steps : List Text} {p q : Path}

/-- The steps that go somewhere. -/
def going (steps : List Text) : List Text := steps.filter fun step => !Path.isSkipped step

theorem going_cons_of_isStay (h : IsStay step) (rest : List Text) :
    going (step :: rest) = going rest := by
  simp [going, isStay_iff.1 h]

theorem going_cons_of_not_isStay (h : ¬IsStay step) (rest : List Text) :
    going (step :: rest) = step :: going rest := by
  rw [isStay_iff] at h
  simp [going, h]

theorem going_steps (p : Path) : going p.steps = p.moves := by
  have hnames : going p.names = p.moves := by
    rw [going, Path.names, List.filter_filter, Path.moves]
    refine List.filter_congr fun piece _ => ?_
    by_cases hpiece : piece = [] <;> simp [hpiece, Path.isSkipped]
  rw [Path.steps]
  split
  · rw [going, List.filter_append, ← going, hnames]
    simp [Path.isSkipped]
  · exact hnames

/-! ## Walks without dots -/

/-- What steps come to and what those of them come to that go somewhere: the same directory or none
at all, or the same link. -/
inductive Agree : Stretch → Stretch → Prop
  | landed {landing landing' : Landing}
    (h : ∀ place, landing = .node place .directory ↔ landing' = .node place .directory) :
    Agree (.landed landing) (.landed landing')
  | link (dir : Place) (target : Path) (rest : List Text) :
    Agree (.link dir target rest) (.link dir target (going rest))

theorem further_eq_go {a : Advance} (h : further a = .go place) : a = .go place := by
  cases a with
  | go => exact h
  | link => exact h
  | stop landing => cases landing <;> simp [further] at h

theorem further_eq_link {a : Advance} {target : Path} (h : further a = .link target) :
    a = .link target := by
  cases a with
  | go => exact h
  | link => exact h
  | stop landing => cases landing <;> simp [further] at h

/-- The steps to come make a difference only for what is missing. -/
theorem further_advance (t : FileTree) (dir : Place) (step : Text) (rest : List Text) :
    further (t.advance .follow dir step rest) = further (t.advance .follow dir step []) := by
  by_cases hrest : rest = []
  · rw [hrest]
  · have happend := advance_append (by simp : Purpose.follow ≠ .write) hrest t dir step []
    rw [List.nil_append] at happend
    rw [happend]
    cases t.advance .follow dir step [] with
    | go place => rfl
    | link target => rfl
    | stop landing => cases landing <;> rfl

/-- The steps to come do not make a step go elsewhere. -/
theorem advance_rest_cases (t : FileTree) (dir : Place) (step : Text) (rest rest' : List Text) :
    (∃ place, t.advance .follow dir step rest = .go place ∧
        t.advance .follow dir step rest' = .go place) ∨
      (∃ target, t.advance .follow dir step rest = .link target ∧
        t.advance .follow dir step rest' = .link target) ∨
      ∃ landing landing', t.advance .follow dir step rest = .stop landing ∧
        t.advance .follow dir step rest' = .stop landing' := by
  have hsame := (further_advance t dir step rest).trans (further_advance t dir step rest').symm
  cases ha : t.advance .follow dir step rest with
  | go place => exact Or.inl ⟨place, rfl, further_eq_go (hsame.symm.trans (congrArg further ha))⟩
  | link target =>
    exact Or.inr (Or.inl ⟨target, rfl, further_eq_link (hsame.symm.trans (congrArg further ha))⟩)
  | stop landing =>
    cases hb : t.advance .follow dir step rest' with
    | go place => simp [further_eq_go (hsame.trans (congrArg further hb))] at ha
    | link target => simp [further_eq_link (hsame.trans (congrArg further hb))] at ha
    | stop landing' => exact Or.inr (Or.inr ⟨landing, landing', rfl, rfl⟩)

theorem not_directory_of_stop {landing : Landing} {rest : List Text}
    (h : t.advance .follow dir step rest = .stop landing) (place : Place) :
    landing ≠ .node place .directory := by
  rintro rfl
  exact advance_follow_ne_node h

/-- Away from a directory no steps come to one. -/
theorem exists_landed_of_ne_directory (h : t.node? place ≠ some .directory) (steps : List Text) :
    ∃ landing, t.stretch .follow place steps = .landed landing ∧
      ∀ other, landing ≠ .node other .directory := by
  cases hn : t.node? place with
  | none =>
    refine ⟨.failed .notFound, ?_, by simp⟩
    cases steps with
    | nil => simp only [stretch, hn]
    | cons step rest => exact stretch_cons_of_stop (advance_of_none hn)
  | some node =>
    have hne : node ≠ .directory := fun e => h (e ▸ hn)
    cases steps with
    | nil => exact ⟨.node place node, stretch_nil hn, fun other e => hne (Landing.node.inj e).2⟩
    | cons step rest =>
      exact ⟨_, stretch_cons_of_stop (advance_of_ne_directory hn hne), by simp⟩

theorem agree_stretch (t : FileTree) (steps : List Text) : ∀ place,
    Agree (t.stretch .follow place steps) (t.stretch .follow place (going steps)) := by
  induction steps with
  | nil =>
    intro place
    by_cases hplace : t.node? place = some .directory
    · rw [going, List.filter_nil, stretch_nil hplace]
      exact .landed fun _ => Iff.rfl
    · obtain ⟨landing, hs, -⟩ := exists_landed_of_ne_directory hplace []
      rw [going, List.filter_nil, hs]
      exact .landed fun _ => Iff.rfl
  | cons step rest ih =>
    intro dir
    by_cases hstay : IsStay step
    · rw [going_cons_of_isStay hstay]
      by_cases hdir : t.node? dir = some .directory
      · rw [stretch_cons_of_go (advance_of_isStay hdir hstay)]
        exact ih dir
      · -- A dot asks for a directory, and without it none is found either.
        obtain ⟨landing, hs, hnot⟩ := exists_landed_of_ne_directory hdir (step :: rest)
        obtain ⟨landing', hs', hnot'⟩ := exists_landed_of_ne_directory hdir (going rest)
        rw [hs, hs']
        exact .landed fun place => iff_of_false (hnot place) (hnot' place)
    · rw [going_cons_of_not_isStay hstay]
      rcases advance_rest_cases t dir step rest (going rest) with
        ⟨place, ha, hb⟩ | ⟨target, ha, hb⟩ | ⟨landing, landing', ha, hb⟩
      · rw [stretch_cons_of_go ha, stretch_cons_of_go hb]
        exact ih place
      · rw [stretch_cons_of_link ha, stretch_cons_of_link hb]
        exact .link dir target rest
      · rw [stretch_cons_of_stop ha, stretch_cons_of_stop hb]
        exact .landed fun place =>
          iff_of_false (not_directory_of_stop ha place) (not_directory_of_stop hb place)

theorem walk_going (links : Nat) : ∀ dir steps,
    t.walk .follow links dir steps = .node place .directory ↔
      t.walk .follow links dir (going steps) = .node place .directory := by
  induction links with
  | zero =>
    intro dir steps
    generalize hs : t.stretch .follow dir steps = s, hs' : t.stretch .follow dir (going steps) = s'
    have hagree := agree_stretch t steps dir
    rw [hs, hs'] at hagree
    cases hagree with
    | landed h =>
      rw [walk_of_landed hs, walk_of_landed hs']
      exact h place
    | link => rw [walk_zero_of_link hs, walk_zero_of_link hs']
  | succ links ih =>
    intro dir steps
    generalize hs : t.stretch .follow dir steps = s, hs' : t.stretch .follow dir (going steps) = s'
    have hagree := agree_stretch t steps dir
    rw [hs, hs'] at hagree
    cases hagree with
    | landed h =>
      rw [walk_of_landed hs, walk_of_landed hs']
      exact h place
    | link place target rest =>
      have hgoing : going (target.steps ++ going rest) = going (target.steps ++ rest) := by
        simp [going, List.filter_append]
      rw [walk_succ_of_link hs, walk_succ_of_link hs', ih, ih _ (target.steps ++ going rest), hgoing]

/-! ## Naming -/

/-- Whether the steps of a path lead to a directory at a place, with links followed. -/
def NamesDirectory (t : FileTree) (cwd : Place) (p : Path) (place : Place) : Prop :=
  t.walk .follow 40 (start cwd p) p.steps = .node place .directory

/-- **Moves.** Paths with the same moves from the same start name the same directory. -/
theorem namesDirectory_congr (hmoves : p.moves = q.moves) (habs : p.isAbsolute = q.isAbsolute) :
    t.NamesDirectory cwd p place ↔ t.NamesDirectory cwd q place := by
  rw [NamesDirectory, NamesDirectory, walk_going, going_steps, walk_going 40 (start cwd q), going_steps,
    hmoves, start, start, habs]

theorem namesDirectory_iff (hr : ¬IsRefused p) :
    t.NamesDirectory cwd p place ↔ t.locate cwd .follow p = .node place .directory := by
  rw [locate_of_not_isRefused hr, if_neg (by simp), NamesDirectory]

theorem namesDirectory_of_locate (h : t.locate cwd .follow p = .node place .directory) :
    t.NamesDirectory cwd p place := by
  by_cases hr : IsRefused p
  · obtain ⟨error, he⟩ := locate_of_isRefused hr
    simp [he] at h
  · exact (namesDirectory_iff hr).2 h

theorem NamesDirectory.isDirectory (h : t.NamesDirectory cwd p place) (hr : ¬IsRefused p) :
    t.isDirectory cwd p = true := by
  rw [FileTree.isDirectory, (namesDirectory_iff hr).1 h]

end FileTree

end CrudScaffold
