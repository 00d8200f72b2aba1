import CrudScaffold.Proofs.FileTree.Landing

set_option autoImplicit false

/-! # Growing trees

A file tree grows if all that stands in it stays where it is and what it is, up to the contents of
files, and no link comes to it. A path that leads somewhere leads there in the grown tree too, and a
path that fails for another reason than absence goes on failing (`FileTree.Grows.locate`). What a
growing tree cannot do is send a path that was absent to a node that was there before, unless the
path leaves a new directory by two dots (`FileTree.Grows.locate_of_keepsDown`). -/

namespace CrudScaffold

/-- What a node is, whatever its content. -/
def Node.shape : Node → Node
  | .file _ => .file []
  | node => node

theorem Node.shape_eq_directory {node : Node} (h : node.shape = Node.directory.shape) :
    node = .directory := by
  cases node <;> simp_all [shape]

theorem Node.shape_eq_link {node : Node} {target : Path} (h : node.shape = (Node.link target).shape) :
    node = .link target := by
  cases node <;> simp_all [shape]

theorem Node.shape_eq_file {node : Node} {content : Text} (h : node.shape = (Node.file content).shape) :
    ∃ content', node = .file content' := by
  cases node <;> simp_all [shape]

namespace FileTree

/-- A tree grows into another one: what stands stays, and no link is new. -/
structure Grows (t t' : FileTree) : Prop where
  node? : ∀ place node, t.node? place = some node →
    ∃ node', t'.node? place = some node' ∧ node'.shape = node.shape
  link : ∀ place target, t'.node? place = some (.link target) →
    t.node? place = some (.link target)

variable {t t' t'' : FileTree} {purpose : Purpose} {cwd dir place : Place} {name step : Text}
  {rest steps : List Text} {p : Path}

theorem Grows.refl (t : FileTree) : t.Grows t := ⟨fun _ node h => ⟨node, h, rfl⟩, fun _ _ h => h⟩

theorem Grows.trans (h : t.Grows t') (h' : t'.Grows t'') : t.Grows t'' where
  node? place node hn := by
    obtain ⟨node', hn', hs⟩ := h.node? place node hn
    obtain ⟨node'', hn'', hs'⟩ := h'.node? place node' hn'
    exact ⟨node'', hn'', hs'.trans hs⟩
  link place target hl := h.link place target (h'.link place target hl)

theorem Grows.directory (h : t.Grows t') (hd : t.node? place = some .directory) :
    t'.node? place = some .directory := by
  obtain ⟨node, hn, hs⟩ := h.node? place _ hd
  rw [hn, Node.shape_eq_directory hs]

theorem Grows.file (h : t.Grows t') {content : Text} (hf : t.node? place = some (.file content)) :
    ∃ content', t'.node? place = some (.file content') := by
  obtain ⟨node, hn, hs⟩ := h.node? place _ hf
  obtain ⟨content', rfl⟩ := Node.shape_eq_file hs
  exact ⟨content', hn⟩

/-- Putting a directory or a file where nothing is, or a file in a file's place, makes a tree
grow. -/
theorem grows_put {node : Node} (hdir : t.node? dir = some .directory)
    (hlink : ∀ target, node ≠ .link target)
    (hold : ∀ old, t.node? (name :: dir) = some old → ∃ content, old = .file content ∧
      ∃ content', node = .file content') :
    t.Grows (t.put name dir node) where
  node? place old ho := by
    have hname : t.node? (name :: dir) ≠ some .directory := by
      intro hd
      obtain ⟨content, hc, -⟩ := hold _ hd
      simp at hc
    rw [node?_put t name dir place node hdir hname]
    split
    · next e =>
      subst e
      obtain ⟨content, rfl, content', rfl⟩ := hold old ho
      exact ⟨_, rfl, rfl⟩
    · exact ⟨old, ho, rfl⟩
  link place target hl := by
    have hname : t.node? (name :: dir) ≠ some .directory := by
      intro hd
      obtain ⟨content, hc, -⟩ := hold _ hd
      simp at hc
    rw [node?_put t name dir place node hdir hname] at hl
    split at hl
    · exact absurd (Option.some.inj hl) (hlink target)
    · exact hl

/-! ## Looking up in a grown tree -/

/-- A step in a grown tree leads to what it led to before, unless something was missing. -/
theorem Grows.enter (h : t.Grows t') (purpose : Purpose) (dir : Place) (name : Text)
    (rest : List Text) :
    t'.enter purpose dir name rest = t.enter purpose dir name rest ∨
      t.enter purpose dir name rest = .stop (.failed .notFound) ∨
      rest = [] ∧ t.enter purpose dir name rest = .stop (.vacant name dir) ∧
        t'.enter purpose dir name rest = .go (name :: dir) := by
  by_cases he : Enterable purpose name rest
  · cases hn : t.node? (name :: dir) with
    | none =>
      rw [enter_of_none he hn]
      by_cases hrest : rest = []
      · rw [if_pos hrest]
        cases hn' : t'.node? (name :: dir) with
        | none => exact Or.inl (by rw [enter_of_none he hn', if_pos hrest])
        | some node =>
          have hlink : ∀ target, node ≠ .link target := by
            rintro target rfl
            simp [h.link _ _ hn'] at hn
          exact Or.inr (Or.inr ⟨hrest, rfl, enter_of_some he hn' hlink⟩)
      · exact Or.inr (Or.inl (by rw [if_neg hrest]))
    | some node =>
      obtain ⟨node', hn', hs⟩ := h.node? _ _ hn
      by_cases hlink : ∃ target, node = .link target
      · obtain ⟨target, rfl⟩ := hlink
        obtain rfl := Node.shape_eq_link hs
        exact Or.inl (by rw [enter_of_link he hn, enter_of_link he hn'])
      · have hlink : ∀ target, node ≠ .link target := fun target e => hlink ⟨target, e⟩
        have hlink' : ∀ target, node' ≠ .link target := by
          rintro target rfl
          exact hlink target (Node.shape_eq_link hs.symm)
        exact Or.inl ((enter_of_some he hn' hlink').trans (enter_of_some he hn hlink).symm)
  · obtain ⟨error, -, hstop⟩ := enter_of_not_enterable he
    exact Or.inl ((hstop t' dir).trans (hstop t dir).symm)

theorem Grows.advance (h : t.Grows t') (purpose : Purpose) (dir : Place) (step : Text)
    (rest : List Text) :
    t'.advance purpose dir step rest = t.advance purpose dir step rest ∨
      t.advance purpose dir step rest = .stop (.failed .notFound) ∨
      rest = [] ∧ t.advance purpose dir step rest = .stop (.vacant step dir) ∧
        t'.advance purpose dir step rest = .go (step :: dir) := by
  cases hd : t.node? dir with
  | none => exact Or.inr (Or.inl (advance_of_none hd))
  | some node =>
    by_cases hdir : node = .directory
    · subst hdir
      have hd' := h.directory hd
      by_cases hstay : IsStay step
      · exact Or.inl ((advance_of_isStay hd' hstay).trans (advance_of_isStay hd hstay).symm)
      · by_cases hup : step = ['.', '.']
        · subst hup
          exact Or.inl ((advance_up hd').trans (advance_up hd).symm)
        · rw [advance_of_isName hd hstay hup, advance_of_isName hd' hstay hup]
          exact h.enter purpose dir step rest
    · obtain ⟨node', hd', hs⟩ := h.node? _ _ hd
      have hdir' : node' ≠ .directory := fun e => hdir (Node.shape_eq_directory (e ▸ hs.symm))
      exact Or.inl
        ((advance_of_ne_directory hd' hdir').trans (advance_of_ne_directory hd hdir).symm)

/-- What the landing of a walk can become when the tree grows. -/
def CanBecome : Landing → Landing → Prop
  | .node place node, landing => ∃ node', landing = .node place node' ∧ node'.shape = node.shape
  | .vacant name dir, landing =>
    landing = .vacant name dir ∨ ∃ node, landing = .node (name :: dir) node
  | .failed error, landing => error = .notFound ∨ landing = .failed error

theorem CanBecome.refl (landing : Landing) : CanBecome landing landing := by
  cases landing with
  | node place node => exact ⟨node, rfl, rfl⟩
  | vacant name dir => exact Or.inl rfl
  | failed error => exact Or.inr rfl

theorem Grows.stretch (h : t.Grows t') (steps : List Text) (place : Place) :
    Follows CanBecome (fun _ _ => True) (t.stretch purpose place steps)
      (t'.stretch purpose place steps) := by
  refine stretch_follows ?_ ?_ steps place True.intro
  · intro place _
    cases hn : t.node? place with
    | none =>
      simp only [FileTree.stretch, hn]
      exact Or.inl fun _ => Or.inl rfl
    | some node =>
      obtain ⟨node', hn', hs⟩ := h.node? _ _ hn
      rw [stretch_nil hn, stretch_nil hn']
      exact Or.inr ⟨_, rfl, node', rfl, hs⟩
  · intro dir step rest _
    rcases h.advance purpose dir step rest with hsame | ha | ⟨rfl, ha, ha'⟩
    · cases ha : t.advance purpose dir step rest with
      | go place => exact Or.inl ⟨place, rfl, hsame.trans ha, True.intro⟩
      | link target =>
        rw [stretch_cons_of_link ha, stretch_cons_of_link (hsame.trans ha)]
        exact Or.inr ⟨rfl, True.intro⟩
      | stop landing =>
        rw [stretch_cons_of_stop ha, stretch_cons_of_stop (hsame.trans ha)]
        exact Or.inr (Or.inr ⟨_, rfl, CanBecome.refl landing⟩)
    · rw [stretch_cons_of_stop ha]
      exact Or.inr (Or.inl fun _ => Or.inl rfl)
    · rw [stretch_cons_of_stop ha, stretch_cons_of_go ha']
      -- What the vacant name has become is no link, so the walk comes to its end there.
      obtain ⟨-, ⟨node, hn, -⟩, -⟩ := advance_eq_go ha'
      rw [stretch_nil hn]
      exact Or.inr (Or.inr ⟨_, rfl, Or.inr ⟨node, rfl⟩⟩)

theorem Grows.locate (h : t.Grows t') (cwd : Place) (purpose : Purpose) (p : Path) :
    CanBecome (t.locate cwd purpose p) (t'.locate cwd purpose p) := by
  by_cases hr : IsRefused p
  · obtain ⟨error, he⟩ := locate_of_isRefused hr
    rw [he, he]
    exact CanBecome.refl _
  · rw [locate_of_not_isRefused hr, locate_of_not_isRefused hr]
    exact walk_rel (I := fun _ _ => True) (Or.inr rfl) (fun dir steps _ => h.stretch steps dir) _ _ _
      True.intro

theorem Grows.locate_node (h : t.Grows t') {node : Node}
    (hl : t.locate cwd purpose p = .node place node) :
    ∃ node', t'.locate cwd purpose p = .node place node' ∧ node'.shape = node.shape := by
  have := h.locate cwd purpose p
  rwa [hl] at this

theorem Grows.exists? (h : t.Grows t') (hp : t.exists? cwd p = true) : t'.exists? cwd p = true := by
  rw [FileTree.exists?] at hp
  split at hp
  · next place node hl =>
    obtain ⟨node', hl', -⟩ := h.locate_node hl
    rw [FileTree.exists?, hl']
  · simp at hp

theorem Grows.locate_directory (h : t.Grows t')
    (hl : t.locate cwd purpose p = .node place .directory) :
    t'.locate cwd purpose p = .node place .directory := by
  obtain ⟨node, hl', hs⟩ := h.locate_node hl
  rw [hl', Node.shape_eq_directory hs]

/-- A path at which nothing stood comes to lead to an old node only if something on the way to it
was missing. -/
theorem Grows.locate_eq_notFound (h : t.Grows t') (hocc : t.isOccupied cwd p = false) {node : Node}
    (hl : t'.locate cwd .follow p = .node place node) (hold : t.node? place ≠ none) :
    t.locate cwd .keep p = .failed .notFound := by
  have hbecome := h.locate cwd .follow p
  rw [locate_follow_of_not_isOccupied hocc, hl] at hbecome
  cases hkeep : t.locate cwd .keep p with
  | node other node => simp [isOccupied, hkeep] at hocc
  | vacant name dir =>
    rw [hkeep] at hbecome
    rcases hbecome with he | ⟨node', he⟩
    · simp at he
    · obtain ⟨rfl, -⟩ := Landing.node.inj he
      exact absurd (node?_of_locate_vacant hkeep).2 hold
  | failed error =>
    rw [hkeep] at hbecome
    rcases hbecome with rfl | he
    · rfl
    · simp at he

/-! ## Failures in a tree without new directories -/

section Failure

variable (h : t.Grows t')
  (hdirs : ∀ place, t'.node? place = some .directory → t.node? place = some .directory)
include h hdirs

/-- A step that fails goes on failing, or comes to what is no directory with steps still to come. -/
theorem Grows.advance_failed {error : DiskError}
    (ha : t.advance purpose dir step rest = .stop (.failed error)) :
    (∃ error, t'.advance purpose dir step rest = .stop (.failed error)) ∨
      rest ≠ [] ∧ ∃ place node, t'.advance purpose dir step rest = .go place ∧
        t'.node? place = some node ∧ node ≠ .directory := by
  rcases h.advance purpose dir step rest with hsame | hmissing | ⟨-, hvacant, -⟩
  · exact Or.inl ⟨error, hsame.trans ha⟩
  · rcases advance_eq_notFound hmissing with hd | ⟨hd, hn, hrest⟩
    · cases hd' : t'.node? dir with
      | none => exact Or.inl ⟨_, advance_of_none hd'⟩
      | some node =>
        have hne : node ≠ .directory := by
          rintro rfl
          simp [hdirs _ hd'] at hd
        exact Or.inl ⟨_, advance_of_ne_directory hd' hne⟩
    · rcases advance_cases t' purpose dir step rest with
        ⟨place, node, -, hn', -, hplace, hgo⟩ | ⟨_, -, hn', -⟩ | ⟨-, -, hnil, -⟩ | herr
      · rcases hplace with ⟨hstay, -⟩ | ⟨rfl, -⟩ | rfl
        · simp [advance_of_isStay hd hstay] at hmissing
        · simp [advance_up hd] at hmissing
        · refine Or.inr ⟨hrest, _, node, hgo, hn', ?_⟩
          rintro rfl
          simp [hdirs _ hn'] at hn
      · simp [h.link _ _ hn'] at hn
      · exact absurd hnil hrest
      · exact Or.inl herr
  · simp [hvacant] at ha

/-- Where a walk without steps begins, something has to stand: in a grown tree it could be new. -/
theorem Grows.stretch_failed (steps : List Text) (place : Place)
    (hplace : steps = [] → (t.node? place).isSome) :
    Follows (fun landing other => (∃ error, landing = .failed error) → ∃ error, other = .failed error)
      (fun place steps => steps = [] → (t.node? place).isSome)
      (t.stretch purpose place steps) (t'.stretch purpose place steps) := by
  refine stretch_follows ?_ ?_ steps place hplace
  · intro place hplace
    obtain ⟨node, hn⟩ := Option.isSome_iff_exists.1 (hplace rfl)
    rw [stretch_nil hn]
    exact Or.inl fun _ he => by simp at he
  · intro dir step rest _
    cases ha : t.advance purpose dir step rest with
    | go place =>
      rcases h.advance purpose dir step rest with hsame | hc | ⟨-, hc, -⟩
      · obtain ⟨-, ⟨node, hn, -⟩, -⟩ := advance_eq_go ha
        exact Or.inl ⟨place, rfl, hsame.trans ha, fun _ => by simp [hn]⟩
      · simp [hc] at ha
      · simp [hc] at ha
    | link target =>
      rcases h.advance purpose dir step rest with hsame | hc | ⟨-, hc, -⟩
      · rw [stretch_cons_of_link ha, stretch_cons_of_link (hsame.trans ha)]
        exact Or.inr ⟨rfl, fun _ => by simp [node?_start (advance_eq_link ha).1]⟩
      · simp [hc] at ha
      · simp [hc] at ha
    | stop landing =>
      rw [stretch_cons_of_stop ha]
      cases landing with
      | node place node => exact Or.inr (Or.inl fun _ he => by simp at he)
      | vacant name dir => exact Or.inr (Or.inl fun _ he => by simp at he)
      | failed error =>
        -- A new file on the way stops the walk one step later.
        rcases h.advance_failed hdirs ha with ⟨error, ha'⟩ | ⟨hrest, place, node, ha', hn, hne⟩
        · rw [stretch_cons_of_stop ha']
          exact Or.inr (Or.inr ⟨_, rfl, fun _ => ⟨error, rfl⟩⟩)
        · rw [stretch_cons_of_go ha']
          cases rest with
          | nil => exact absurd rfl hrest
          | cons next rest =>
            rw [stretch_cons_of_stop (advance_of_ne_directory hn hne)]
            exact Or.inr (Or.inr ⟨_, rfl, fun _ => ⟨_, rfl⟩⟩)

theorem Grows.locate_write_failed {error : DiskError}
    (hl : t.locate cwd .write p = .failed error) :
    ∃ error, t'.locate cwd .write p = .failed error := by
  by_cases hr : IsRefused p
  · obtain ⟨error, he⟩ := locate_of_isRefused hr
    exact ⟨error, he _ _ _⟩
  · rw [locate_of_not_isRefused hr] at hl ⊢
    refine walk_rel
      (R := fun landing other => (∃ error, landing = .failed error) → ∃ error, other = .failed error)
      (I := fun place steps => steps = [] → (t.node? place).isSome) (fun _ => ⟨_, rfl⟩)
      (fun dir steps hI => h.stretch_failed hdirs steps dir hI) _ _ _ ?_ ⟨error, hl⟩
    -- Only the path of the root has no steps, and the root stands in every tree.
    intro hnil
    rw [if_neg (by simp)] at hnil
    cases habs : p.isAbsolute with
    | true => simp [start, habs]
    | false => exact absurd hnil (steps_ne_nil hr habs)

end Failure

/-! ## Paths without two dots -/

/-- Whether a path never leaves a directory that it has entered. -/
def KeepsDown (p : Path) : Prop := ['.', '.'] ∉ p.names

theorem KeepsDown.notMem_steps (h : KeepsDown p) : ['.', '.'] ∉ p.steps := by
  rw [Path.steps]
  split
  · simpa [KeepsDown] using h
  · exact h

section KeepsDown

variable (h : t.Grows t')
include h

/-- From a new place, steps down lead to new places only. -/
theorem Grows.stretch_of_none (purpose : Purpose) (steps : List Text) : ∀ place, t.node? place = none →
    ['.', '.'] ∉ steps → ∃ landing, t'.stretch purpose place steps = .landed landing ∧
      ∀ other node, landing = .node other node → t.node? other = none := by
  induction steps with
  | nil =>
    intro place hnew _
    cases hn : t'.node? place with
    | none =>
      simp only [FileTree.stretch, hn]
      exact ⟨_, rfl, fun _ _ e => by simp at e⟩
    | some node =>
      refine ⟨_, stretch_nil hn, fun other _ e => ?_⟩
      obtain ⟨rfl, -⟩ := Landing.node.inj e
      exact hnew
  | cons step rest ih =>
    intro dir hnew hdown
    simp only [List.mem_cons, not_or] at hdown
    cases ha : t'.advance purpose dir step rest with
    | go place =>
      rw [stretch_cons_of_go ha]
      refine ih place ?_ hdown.2
      rcases (advance_eq_go ha).2.2 with ⟨-, rfl⟩ | ⟨hup, -⟩ | rfl
      · exact hnew
      · exact absurd hup.symm hdown.1
      · exact node?_cons_of_none hnew
    | link target =>
      have hold := h.link _ _ (advance_eq_link ha).2
      simp [node?_cons_of_none hnew] at hold
    | stop landing =>
      refine ⟨landing, stretch_cons_of_stop ha, ?_⟩
      rintro other node rfl
      obtain ⟨-, -, target, -, hlink⟩ := advance_eq_node ha
      have hold := h.link _ _ hlink
      simp [node?_cons_of_none hnew] at hold

/-- Whether a walk that ends at a place of a tree ends there in that tree, too. -/
def EndsAsBefore (t : FileTree) (landing other : Landing) : Prop :=
  ∀ place node, landing = .node place node → t.node? place ≠ none → ∃ node, other = .node place node

/-- A walk down that has come to a new place does not come back to an old one. -/
theorem Grows.follows_of_none {steps : List Text} (hnone : t.node? place = none)
    (hdown : ['.', '.'] ∉ steps) (s : Stretch) :
    Follows (EndsAsBefore t) (fun _ steps => ['.', '.'] ∉ steps) (t'.stretch purpose place steps) s := by
  obtain ⟨landing, hl, hall⟩ := h.stretch_of_none purpose steps place hnone hdown
  rw [hl]
  exact Or.inl fun _ other node e hold => absurd (hall other node e) hold

/-- Where a step down found nothing, it comes to a new place now, or to none. -/
theorem Grows.follows_of_notFound {rest : List Text} (hdown : ['.', '.'] ∉ step :: rest)
    (hmissing : t.advance purpose dir step rest = .stop (.failed .notFound)) (s : Stretch) :
    Follows (EndsAsBefore t) (fun _ steps => ['.', '.'] ∉ steps)
      (t'.stretch purpose dir (step :: rest)) s := by
  rcases advance_eq_notFound hmissing with hnone | ⟨hd, hnone, -⟩
  · exact h.follows_of_none hnone hdown s
  · cases ha : t'.advance purpose dir step rest with
    | go place =>
      rcases (advance_eq_go ha).2.2 with ⟨hstay, -⟩ | ⟨hup, -⟩ | rfl
      · simp [advance_of_isStay hd hstay] at hmissing
      · exact absurd (List.mem_cons.2 (Or.inl hup.symm)) hdown
      · rw [stretch_cons_of_go ha]
        exact h.follows_of_none hnone (fun hm => hdown (List.mem_cons_of_mem _ hm)) s
    | link target => simp [h.link _ _ (advance_eq_link ha).2] at hnone
    | stop landing =>
      rw [stretch_cons_of_stop ha]
      refine Or.inl ?_
      rintro _ place node rfl -
      obtain ⟨-, -, target, -, hlink⟩ := advance_eq_node ha
      simp [h.link _ _ hlink] at hnone

variable (hlinks : ∀ place target, t.node? place = some (.link target) → KeepsDown target)
include hlinks

/-- A walk down in the grown tree that ends at an old place ends there in the old tree. -/
theorem Grows.stretch_of_keepsDown (steps : List Text) (place : Place)
    (hdown : ['.', '.'] ∉ steps) :
    Follows (EndsAsBefore t) (fun _ steps => ['.', '.'] ∉ steps)
      (t'.stretch purpose place steps) (t.stretch purpose place steps) := by
  refine stretch_follows ?_ ?_ steps place hdown
  · intro place hnil
    cases hn : t.node? place with
    | none => exact h.follows_of_none hn hnil _
    | some node =>
      cases hn' : t'.node? place with
      | none =>
        simp only [FileTree.stretch, hn']
        exact Or.inl fun _ _ _ e => by simp at e
      | some node' =>
        rw [stretch_nil hn', stretch_nil hn]
        refine Or.inr ⟨_, rfl, fun other _ e _ => ?_⟩
        obtain ⟨rfl, -⟩ := Landing.node.inj e
        exact ⟨node, rfl⟩
  · intro dir step rest hdown
    have hrest : ['.', '.'] ∉ rest := fun hm => hdown (List.mem_cons_of_mem _ hm)
    rcases h.advance purpose dir step rest with hsame | hmissing | ⟨-, hvacant, hgo⟩
    · cases ha : t.advance purpose dir step rest with
      | go place => exact Or.inl ⟨place, hsame.trans ha, rfl, hrest⟩
      | link target =>
        rw [stretch_cons_of_link ha, stretch_cons_of_link (hsame.trans ha)]
        have htarget := (hlinks _ _ (advance_eq_link ha).2).notMem_steps
        refine Or.inr ⟨rfl, fun hm => ?_⟩
        rcases List.mem_append.1 hm with hm | hm
        · exact htarget hm
        · exact hrest hm
      | stop landing =>
        rw [stretch_cons_of_stop ha, stretch_cons_of_stop (hsame.trans ha)]
        exact Or.inr (Or.inr ⟨_, rfl, fun place node e _ => ⟨node, e⟩⟩)
    · exact Or.inr (h.follows_of_notFound hdown hmissing _)
    · -- What was vacant has a directory now, which is entered and not left any more.
      rw [stretch_cons_of_go hgo]
      exact Or.inr (h.follows_of_none (advance_eq_vacant hvacant).2.2.2 hrest _)

/-- A path without two dots leads to an old place only if it led there before. -/
theorem Grows.locate_of_keepsDown (hp : KeepsDown p) {node' : Node}
    (hl : t'.locate cwd purpose p = .node place node') (hold : t.node? place ≠ none) :
    ∃ node, t.locate cwd purpose p = .node place node := by
  by_cases hr : IsRefused p
  · obtain ⟨error, he⟩ := locate_of_isRefused hr
    simp [he] at hl
  · rw [locate_of_not_isRefused hr] at hl ⊢
    refine walk_rel
      (R := EndsAsBefore t) (I := fun _ steps => ['.', '.'] ∉ steps) (fun _ _ e => by simp at e)
      (fun dir steps hI => h.stretch_of_keepsDown hlinks steps dir hI) _ _ _ ?_ _ _ hl hold
    split
    · exact hp
    · exact hp.notMem_steps

end KeepsDown

end FileTree

end CrudScaffold
