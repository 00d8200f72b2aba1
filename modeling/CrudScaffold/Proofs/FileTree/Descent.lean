import CrudScaffold.Proofs.FileTree.Change
import CrudScaffold.Proofs.Path

set_option autoImplicit false

/-! # Trees without links

On a tree without links a path without two dots leads straight down: where it lands can be read off
the place that it names, whatever is to be done there (`FileTree.locate_eq_descend`). What can be
written to is reached by such a path only (`FileTree.descends_of_destination?`). -/

namespace CrudScaffold

namespace FileTree

variable {t t' : FileTree} {purpose : Purpose} {cwd dir place : Place} {name step : Text}
  {rest steps : List Text} {p : Path}

/-- Whether no link stands in a tree. -/
def LinkFree (t : FileTree) : Prop := ∀ place target, t.node? place ≠ some (.link target)

theorem linkFree_empty : empty.LinkFree := by
  intro place target
  cases place <;> simp [empty, node?, nodeAt?]

theorem LinkFree.of_grows (hfree : t.LinkFree) (h : t.Grows t') : t'.LinkFree :=
  fun place target hl => hfree place target (h.link place target hl)

/-- Steps that stay where they are do not matter for going up. -/
theorem keepsDown_iff : KeepsDown p ↔ ['.', '.'] ∉ p.moves := by
  have hup : Path.isSkipped ['.', '.'] = false := rfl
  simp [KeepsDown, Path.names, Path.moves, hup]

/-! ## Straight down -/

/-- Where a walk straight down from the root to a place lands. -/
def descend (t : FileTree) : Place → Landing
  | [] => .node [] .directory
  | name :: dir =>
    match descend t dir with
    | .node _ .directory =>
      match t.node? (name :: dir) with
      | some node => .node (name :: dir) node
      | none => .vacant name dir
    | .node .. => .failed .notDirectory
    | .vacant .. => .failed .notFound
    | .failed error => .failed error

theorem descend_of_directory {node : Node} (hdir : t.descend dir = .node dir .directory)
    (hnode : t.node? (name :: dir) = some node) :
    t.descend (name :: dir) = .node (name :: dir) node := by
  rw [descend, hdir]
  simp only [hnode]

theorem descend_eq_vacant (hdir : t.descend dir = .node dir .directory)
    (hnone : t.node? (name :: dir) = none) : t.descend (name :: dir) = .vacant name dir := by
  rw [descend, hdir]
  simp only [hnone]

theorem descend_of_not_directory {node : Node} (hdir : t.descend dir = .node place node)
    (hne : node ≠ .directory) : t.descend (name :: dir) = .failed .notDirectory := by
  rw [descend, hdir]
  cases node <;> simp_all

theorem descend_of_vacant (hdir : t.descend dir = .vacant step place) :
    t.descend (name :: dir) = .failed .notFound := by
  rw [descend, hdir]

theorem descend_of_failed {error : DiskError} (hdir : t.descend dir = .failed error) :
    t.descend (name :: dir) = .failed error := by
  rw [descend, hdir]

/-- A walk straight down lands on what stands at the place, or finds it missing in its directory, or
something above it is missing or no directory. -/
theorem descend_cases (t : FileTree) (place : Place) :
    (∃ node, t.node? place = some node ∧ t.descend place = .node place node) ∨
    (∃ name dir, place = name :: dir ∧ t.node? dir = some .directory ∧ t.node? place = none ∧
      t.descend place = .vacant name dir) ∨
    ∃ name dir error, place = name :: dir ∧ t.node? place = none ∧ t.descend place = .failed error ∧
      (error = .notFound ∧ t.node? dir = none ∨
        ∃ above node, above <:+ dir ∧ t.node? above = some node ∧ node ≠ .directory) := by
  induction place with
  | nil => exact Or.inl ⟨.directory, rfl, rfl⟩
  | cons name dir ih =>
    rcases ih with ⟨node, hnode, hd⟩ | ⟨_, _, -, -, hnone, hd⟩ |
      ⟨name', dir', error, hplace, hnone, hd, herror⟩
    · by_cases hdirectory : node = .directory
      · subst hdirectory
        cases hn : t.node? (name :: dir) with
        | some node => exact Or.inl ⟨node, rfl, descend_of_directory hd hn⟩
        | none => exact Or.inr (Or.inl ⟨name, dir, rfl, hnode, rfl, descend_eq_vacant hd hn⟩)
      · have hnone : t.node? (name :: dir) = none := by
          cases hn : t.node? (name :: dir) with
          | none => rfl
          | some other => exact absurd (Option.some.inj (hnode.symm.trans (node?_parent hn))) hdirectory
        exact Or.inr (Or.inr ⟨name, dir, _, rfl, hnone, descend_of_not_directory hd hdirectory,
          Or.inr ⟨dir, node, List.suffix_refl dir, hnode, hdirectory⟩⟩)
    · exact Or.inr (Or.inr ⟨name, dir, _, rfl, node?_cons_of_none hnone, descend_of_vacant hd,
        Or.inl ⟨rfl, hnone⟩⟩)
    · refine Or.inr (Or.inr ⟨name, dir, error, rfl, node?_cons_of_none hnone, descend_of_failed hd,
        herror.imp (fun h => ⟨h.1, hnone⟩) ?_⟩)
      rintro ⟨above, node, habove, hnode, hne⟩
      exact ⟨above, node, hplace ▸ habove.trans (List.suffix_cons name' dir'), hnode, hne⟩

theorem descend_of_node? {node : Node} (h : t.node? place = some node) :
    t.descend place = .node place node := by
  rcases descend_cases t place with ⟨other, hn, hd⟩ | ⟨_, _, -, -, hnone, -⟩ |
    ⟨_, _, _, -, hnone, -, -⟩
  · rw [hd, Option.some.inj (h.symm.trans hn)]
  · simp [hnone] at h
  · simp [hnone] at h

/-- Where nothing can be gone down to, the next name already settles why. -/
theorem descend_append_of_failed {error : DiskError}
    (h : ∀ name, t.descend (name :: place) = .failed error) (name : Text) (names : Place) :
    t.descend (name :: names ++ place) = .failed error := by
  induction names generalizing name with
  | nil => exact h name
  | cons next names ih => exact descend_of_failed (ih next)

/-! ## Walks on a tree without links -/

/-- Whether a step goes down by a name that a directory can hold. -/
structure GoesDown (step : Text) : Prop where
  not_isStay : ¬IsStay step
  ne_up : step ≠ ['.', '.']
  short : step.byteSize ≤ 255

theorem GoesDown.ne_nil (h : GoesDown step) : step ≠ [] := fun e => h.not_isStay (Or.inl e)

theorem isStay_iff : IsStay step ↔ Path.isSkipped step = true := by simp [IsStay, Path.isSkipped]

theorem GoesDown.not_isSkipped (h : GoesDown step) : ¬Path.isSkipped step = true :=
  fun e => h.not_isStay (isStay_iff.2 e)

theorem advance_of_goesDown (purpose : Purpose) (hdir : t.node? dir = some .directory)
    (hstep : GoesDown step) (hrest : rest ≠ [[]]) : Enterable purpose step rest ∧
      t.advance purpose dir step rest = t.enter purpose dir step rest :=
  ⟨⟨fun h => hrest h.2, by have := hstep.short; omega⟩,
    advance_of_isName hdir hstep.not_isStay hstep.ne_up⟩

/-- The place that some steps lead to from another one, if they go down or stay. -/
def downFrom (dir : Place) (steps : List Text) : Place :=
  (steps.filter fun step => !Path.isSkipped step).reverse ++ dir

theorem downFrom_cons_of_isStay (hstay : IsStay step) (dir : Place) (rest : List Text) :
    downFrom dir (step :: rest) = downFrom dir rest := by
  rw [downFrom, List.filter_cons, if_neg (by simp [isStay_iff.1 hstay]), downFrom]

theorem downFrom_cons_of_not_isStay (hstay : ¬IsStay step) (dir : Place) (rest : List Text) :
    downFrom dir (step :: rest) = downFrom (step :: dir) rest := by
  rw [isStay_iff] at hstay
  rw [downFrom, List.filter_cons, if_pos (by simpa using hstay), List.reverse_cons, List.append_assoc]
  rfl

theorem downFrom_concat_of_isStay (hstay : IsStay step) (dir : Place) (steps : List Text) :
    downFrom dir (steps ++ [step]) = downFrom dir steps := by
  rw [downFrom, List.filter_append, List.filter_cons, if_neg (by simp [isStay_iff.1 hstay]), downFrom]
  simp

theorem downFrom_concat_of_not_isStay (hstay : ¬IsStay step) (dir : Place) (steps : List Text) :
    downFrom dir (steps ++ [step]) = step :: downFrom dir steps := by
  rw [isStay_iff] at hstay
  rw [downFrom, List.filter_append, List.filter_cons, if_pos (by simpa using hstay), downFrom]
  simp

theorem stretch_of_isStay (steps : List Text) (hdir : t.node? dir = some .directory)
    (hsteps : ∀ step ∈ steps, IsStay step) :
    t.stretch purpose dir steps = .landed (.node dir .directory) := by
  induction steps with
  | nil => exact stretch_nil hdir
  | cons step rest ih =>
    rw [stretch_cons_of_go (advance_of_isStay hdir (hsteps step List.mem_cons_self))]
    exact ih fun other hother => hsteps other (List.mem_cons_of_mem _ hother)

/-- Whether steps go down, the last one at any rate, with steps that stay between them. -/
inductive EndsDown : List Text → Prop
  | last {step : Text} (hstep : GoesDown step) : EndsDown [step]
  | down {step : Text} {rest : List Text} (hstep : GoesDown step) (hrest : EndsDown rest) :
    EndsDown (step :: rest)
  | stay {step : Text} {rest : List Text} (hstep : IsStay step) (hrest : EndsDown rest) :
    EndsDown (step :: rest)

theorem EndsDown.ne_nil (h : EndsDown steps) : steps ≠ [] := by cases h <;> simp

theorem EndsDown.ne_slash (h : EndsDown steps) : steps ≠ [[]] := by
  rintro rfl
  cases h with
  | last hstep => exact hstep.ne_nil rfl
  | down _ hrest => exact hrest.ne_nil rfl
  | stay _ hrest => exact hrest.ne_nil rfl

theorem EndsDown.exists_downFrom (h : EndsDown steps) (dir : Place) :
    ∃ name names, downFrom dir steps = name :: names ++ dir := by
  induction h generalizing dir with
  | last hstep => exact ⟨_, [], downFrom_cons_of_not_isStay hstep.not_isStay dir []⟩
  | @down step _ hstep _ ih =>
    obtain ⟨name, names, hplace⟩ := ih (step :: dir)
    refine ⟨name, names ++ [step], (downFrom_cons_of_not_isStay hstep.not_isStay dir _).trans ?_⟩
    rw [hplace]
    simp
  | stay hstep _ ih =>
    rw [downFrom_cons_of_isStay hstep]
    exact ih dir

/-- Steps down land where a walk straight down does. -/
theorem stretch_eq_descend (hfree : t.LinkFree) (purpose : Purpose) (hsteps : EndsDown steps) :
    ∀ dir, t.node? dir = some .directory →
      t.stretch purpose dir steps = .landed (t.descend (downFrom dir steps)) := by
  induction hsteps with
  | @last step hstep =>
    intro dir hdir
    obtain ⟨he, ha⟩ := advance_of_goesDown purpose hdir hstep (List.cons_ne_nil [] []).symm
    rw [downFrom_cons_of_not_isStay hstep.not_isStay]
    cases hn : t.node? (step :: dir) with
    | none =>
      rw [stretch_cons_of_stop (ha.trans (enter_of_none he hn))]
      exact congrArg Stretch.landed (descend_eq_vacant (descend_of_node? hdir) hn).symm
    | some node =>
      rw [stretch_cons_of_go (ha.trans (enter_of_some he hn fun target e => hfree _ target (e ▸ hn))),
        stretch_nil hn]
      exact congrArg Stretch.landed (descend_of_node? hn).symm
  | @down step rest hstep hrest ih =>
    intro dir hdir
    obtain ⟨he, ha⟩ := advance_of_goesDown purpose hdir hstep hrest.ne_slash
    obtain ⟨name, names, hplace⟩ := hrest.exists_downFrom (step :: dir)
    rw [downFrom_cons_of_not_isStay hstep.not_isStay]
    cases hn : t.node? (step :: dir) with
    | none =>
      -- The last step is still to come, so the walk cannot end at the vacant name.
      have hvacant := descend_eq_vacant (descend_of_node? hdir) hn
      rw [stretch_cons_of_stop (ha.trans (enter_of_none he hn)), if_neg hrest.ne_nil, hplace,
        descend_append_of_failed fun name => descend_of_vacant hvacant]
    | some node =>
      rw [stretch_cons_of_go (ha.trans (enter_of_some he hn fun target e => hfree _ target (e ▸ hn)))]
      by_cases hdirectory : node = .directory
      · exact ih _ (hdirectory ▸ hn)
      · obtain ⟨next, later, rfl⟩ := List.exists_cons_of_ne_nil hrest.ne_nil
        rw [stretch_cons_of_stop (advance_of_ne_directory hn hdirectory), hplace,
          descend_append_of_failed fun name =>
            descend_of_not_directory (descend_of_node? hn) hdirectory]
  | stay hstep _ ih =>
    intro dir hdir
    rw [stretch_cons_of_go (advance_of_isStay hdir hstep), downFrom_cons_of_isStay hstep]
    exact ih dir hdir

/-- Steps that do not go up and neither fail nor end at a directory go down. -/
theorem endsDown_of_stretch_write (hfree : t.LinkFree) (steps : List Text) : ∀ dir,
    t.node? dir = some .directory → ['.', '.'] ∉ steps →
    (∀ error, t.stretch .write dir steps ≠ .landed (.failed error)) →
    (∀ place, t.stretch .write dir steps ≠ .landed (.node place .directory)) → EndsDown steps := by
  induction steps with
  | nil =>
    intro dir hdir _ _ hland
    exact absurd (stretch_nil hdir) (hland dir)
  | cons step rest ih =>
    intro dir hdir hdown hfailed hland
    simp only [List.mem_cons, not_or] at hdown
    by_cases hstay : IsStay step
    · rw [stretch_cons_of_go (advance_of_isStay hdir hstay)] at hfailed hland
      exact .stay hstay (ih dir hdir hdown.2 hfailed hland)
    · have hup : step ≠ ['.', '.'] := fun e => hdown.1 e.symm
      have ha : t.advance .write dir step rest = t.enter .write dir step rest :=
        advance_of_isName hdir hstay hup
      by_cases he : Enterable .write step rest
      · have hstep : GoesDown step := ⟨hstay, hup, Nat.le_of_not_lt he.2⟩
        by_cases hrest : rest = []
        · exact hrest ▸ .last hstep
        · -- With steps still to come, there has to be a directory under the name.
          cases hn : t.node? (step :: dir) with
          | none =>
            have hstop := stretch_cons_of_stop (ha.trans (enter_of_none he hn))
            rw [if_neg hrest] at hstop
            exact absurd hstop (hfailed _)
          | some node =>
            rw [stretch_cons_of_go (ha.trans
              (enter_of_some he hn fun target e => hfree _ target (e ▸ hn)))] at hfailed hland
            by_cases hdirectory : node = .directory
            · exact .down hstep (ih _ (hdirectory ▸ hn) hdown.2 hfailed hland)
            · obtain ⟨next, later, rfl⟩ := List.exists_cons_of_ne_nil hrest
              exact absurd (stretch_cons_of_stop (advance_of_ne_directory hn hdirectory)) (hfailed _)
      · obtain ⟨error, -, hlong⟩ := enter_of_not_enterable he
        exact absurd (stretch_cons_of_stop (ha.trans (hlong t dir))) (hfailed error)

/-! ## Paths that lead down -/

theorem endsDown_append {init : List Text} (hinit : ∀ step ∈ init, IsStay step ∨ GoesDown step)
    (h : EndsDown steps) : EndsDown (init ++ steps) := by
  induction init with
  | nil => exact h
  | cons step init ih =>
    have hrest := ih fun other hother => hinit other (List.mem_cons_of_mem _ hother)
    rcases hinit step List.mem_cons_self with hstay | hdown
    · exact .stay hstay hrest
    · exact .down hdown hrest

/-- Whether a path can lead straight down to a name. -/
structure Descends (p : Path) : Prop where
  not_isRefused : ¬IsRefused p
  endsDown : EndsDown p.pieces

/-- The place that a path without two dots names. -/
def placeOf (cwd : Place) (p : Path) : Place := downFrom (start cwd p) p.pieces

theorem downFrom_names (dir : Place) (p : Path) : downFrom dir p.names = downFrom dir p.pieces := by
  rw [downFrom, downFrom, Path.names, List.filter_filter]
  congr 2
  refine List.filter_congr fun piece _ => ?_
  by_cases h : piece = [] <;> simp [Path.isSkipped, h]

/-- A path ends in a slash exactly if its last piece is empty. -/
theorem getLast?_pieces (hp : ¬IsRefused p) :
    p.pieces.getLast? = some [] ↔ p.text.getLast? = some '/' := by
  constructor
  · intro hlast
    obtain ⟨init, hpieces⟩ := List.getLast?_eq_some_iff.1 hlast
    have htext := p.intercalate_pieces
    rw [hpieces] at htext
    by_cases hinit : init = []
    · have hempty : p.text = [] := by
        rw [← htext, hinit]
        rfl
      exact absurd hempty (text_ne_nil hp)
    · rw [← htext, Text.intercalate_append '/' hinit (by simp)]
      simp [List.intercalate]
  · intro hend
    obtain ⟨text, htext⟩ := List.getLast?_eq_some_iff.1 hend
    rw [Path.pieces, htext, Text.splitOn_append, List.getLast?_append]
    rfl

/-- Without a slash at the end, the last step is the last piece. -/
theorem getLast?_steps (h : p.pieces.getLast? ≠ some []) (hp : ¬IsRefused p) :
    p.steps = p.names ∧ p.names.getLast? = p.pieces.getLast? := by
  obtain ⟨init, last, hpieces⟩ : ∃ init last, p.pieces = init ++ [last] :=
    ⟨_, _, (List.dropLast_concat_getLast p.pieces_ne_nil).symm⟩
  have hne : last ≠ [] := by simpa [hpieces] using h
  refine ⟨by rw [Path.steps, if_neg fun e => h ((getLast?_pieces hp).2 e.2)], ?_⟩
  rw [Path.names, hpieces, List.filter_append, List.filter_cons, if_pos (by simpa using hne)]
  simp

theorem endsDown_iff : EndsDown steps ↔
    (∀ step ∈ steps, IsStay step ∨ GoesDown step) ∧
      ∃ last, steps.getLast? = some last ∧ GoesDown last := by
  constructor
  · intro h
    induction h with
    | last hstep => exact ⟨by simpa using Or.inr hstep, _, rfl, hstep⟩
    | down hstep _ ih =>
      obtain ⟨hall, last, hlast, hdown⟩ := ih
      exact ⟨List.forall_mem_cons.2 ⟨Or.inr hstep, hall⟩, last, by simp [List.getLast?_cons, hlast],
        hdown⟩
    | stay hstep _ ih =>
      obtain ⟨hall, last, hlast, hdown⟩ := ih
      exact ⟨List.forall_mem_cons.2 ⟨Or.inl hstep, hall⟩, last, by simp [List.getLast?_cons, hlast],
        hdown⟩
  · rintro ⟨hall, last, hlast, hdown⟩
    obtain ⟨init, rfl⟩ := List.getLast?_eq_some_iff.1 hlast
    exact endsDown_append (fun step hstep => hall step (List.mem_append_left _ hstep)) (.last hdown)

theorem EndsDown.getLast?_ne (h : EndsDown steps) : steps.getLast? ≠ some [] := by
  obtain ⟨-, last, hlast, hdown⟩ := endsDown_iff.1 h
  rw [hlast]
  exact fun e => hdown.ne_nil (Option.some.inj e)

/-- Empty pieces between others make no difference to where a walk goes. -/
theorem endsDown_steps_iff (hp : ¬IsRefused p) :
    EndsDown p.steps ↔ EndsDown p.pieces := by
  by_cases hend : p.pieces.getLast? = some []
  · refine iff_of_false ?_ fun h => h.getLast?_ne hend
    rw [Path.steps]
    split
    · exact fun h => h.getLast?_ne (by simp)
    · next hnames =>
      have hnil : p.names = [] := Classical.byContradiction fun e =>
        hnames ⟨e, (getLast?_pieces hp).1 hend⟩
      exact fun h => h.ne_nil hnil
  · obtain ⟨hsteps, hlast⟩ := getLast?_steps hend hp
    rw [hsteps, endsDown_iff, endsDown_iff, hlast]
    refine and_congr_left fun _ => ⟨fun h piece hpiece => ?_, fun h name hname => ?_⟩
    · by_cases hempty : piece = []
      · exact Or.inl (Or.inl hempty)
      · exact h piece (List.mem_filter.2 ⟨hpiece, by simpa using hempty⟩)
    · exact h name (List.mem_filter.1 hname).1

/-- **Without links, a path leads straight down.** Where it lands depends on its place only, not on
what is to be done there. -/
theorem locate_eq_descend (hfree : t.LinkFree) (hcwd : t.node? cwd = some .directory)
    (hp : Descends p) (purpose : Purpose) :
    t.locate cwd purpose p = t.descend (placeOf cwd p) := by
  have hsteps := (endsDown_steps_iff hp.not_isRefused).2 hp.endsDown
  have hslash := (getLast?_steps hp.endsDown.getLast?_ne hp.not_isRefused).1
  rw [hslash] at hsteps
  rw [locate_of_not_isRefused hp.not_isRefused, hslash, ite_self, placeOf, ← downFrom_names]
  exact walk_of_landed (stretch_eq_descend hfree purpose hsteps _ (node?_start hcwd p)) 40

/-- Something is at a path that leads down exactly if something stands at its place. -/
theorem isOccupied_of_descends (hfree : t.LinkFree) (hcwd : t.node? cwd = some .directory)
    (hp : Descends p) : t.isOccupied cwd p = (t.node? (placeOf cwd p)).isSome := by
  rw [isOccupied, locate_eq_descend hfree hcwd hp]
  rcases descend_cases t (placeOf cwd p) with ⟨node, hnode, hd⟩ | ⟨_, _, -, -, hnone, hd⟩ |
    ⟨_, _, _, -, hnone, hd, -⟩
  · simp [hnode, hd]
  · simp [hnone, hd]
  · simp [hnone, hd]

/-- A path that goes nowhere leads to where it starts. -/
theorem locate_of_isStay (hcwd : t.node? cwd = some .directory) (hp : ¬IsRefused p)
    (hstay : ∀ piece ∈ p.pieces, IsStay piece) (purpose : Purpose) :
    t.locate cwd purpose p = .node (start cwd p) .directory := by
  have hnames : ∀ step ∈ p.names, IsStay step := fun step hstep =>
    hstay step (List.mem_filter.1 hstep).1
  have hsteps : ∀ step ∈ p.steps, IsStay step := by
    rw [Path.steps]
    split
    · intro step hstep
      rcases List.mem_append.1 hstep with hstep | hstep
      · exact hnames step hstep
      · exact Or.inl (List.mem_singleton.1 hstep)
    · exact hnames
  rw [locate_of_not_isRefused hp]
  refine walk_of_landed (stretch_of_isStay _ (node?_start hcwd p) ?_) 40
  split
  · exact hnames
  · exact hsteps

/-! ## What can be written to -/

/-- Where a path that leads down is written to, it names the file or the vacant name. -/
theorem destination?_of_descends (hfree : t.LinkFree) (hcwd : t.node? cwd = some .directory)
    (hp : Descends p) (hplace : placeOf cwd p = name :: dir)
    (hdir : t.node? dir = some .directory) (hname : t.node? (name :: dir) = none) :
    t.destination? cwd p = some (name :: dir) := by
  rw [destination?, locate_eq_descend hfree hcwd hp, hplace,
    descend_eq_vacant (descend_of_node? hdir) hname]

/-- A path without two dots that can be written to leads down, and it is the place that it names that
is written to. -/
theorem descends_of_destination? (hfree : t.LinkFree) (hcwd : t.node? cwd = some .directory)
    (hdown : KeepsDown p) (h : t.destination? cwd p = some place) :
    Descends p ∧ place = placeOf cwd p := by
  have hnot : ¬IsRefused p := by
    intro hr
    obtain ⟨error, he⟩ := locate_of_isRefused hr
    simp [destination?, he] at h
  have hwalk := locate_of_not_isRefused hnot t cwd .write
  rw [if_neg (by simp)] at hwalk
  have hsteps : EndsDown p.steps := by
    refine endsDown_of_stretch_write hfree p.steps _ (node?_start hcwd p) hdown.notMem_steps ?_ ?_
    · intro error hs
      rw [walk_of_landed hs] at hwalk
      simp [destination?, hwalk] at h
    · intro place hs
      rw [walk_of_landed hs] at hwalk
      simp [destination?, hwalk] at h
  have hp : Descends p := ⟨hnot, (endsDown_steps_iff hnot).1 hsteps⟩
  refine ⟨hp, ?_⟩
  rw [destination?, locate_eq_descend hfree hcwd hp] at h
  rcases descend_cases t (placeOf cwd p) with ⟨node, -, hd⟩ | ⟨name, dir, hplace, -, -, hd⟩ |
    ⟨_, _, error, -, -, hd, -⟩
  · rw [hd] at h
    cases node <;> simp_all
  · rw [hd] at h
    rw [hplace]
    exact (Option.some.inj h).symm
  · simp [hd] at h

end FileTree

end CrudScaffold
