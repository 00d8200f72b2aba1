import CrudScaffold.FileTree.Walk

set_option autoImplicit false

/-! # Walks side by side

What one step of a walk can do (`FileTree.advance_cases`), and how a fact about single steps becomes
one about walks: if two walks, on two disks or for two purposes, keep going to the same places as
long as an invariant holds, their ends are related (`FileTree.walk_rel`). The induction on the steps
and the one on the links that may still be followed are made here and nowhere else. -/

namespace CrudScaffold

namespace FileTree

variable {t : FileTree} {purpose : Purpose} {dir place : Place} {name step : Text}
  {rest steps : List Text}

/-! ## Nodes and their directories -/

theorem node?_parent {node : Node} (h : t.node? (name :: dir) = some node) :
    t.node? dir = some .directory :=
  t.closed name dir (by simp [show nodeAt? t.entries (name :: dir) = some node from h])

theorem node?_tail (h : t.node? dir = some .directory) : t.node? dir.tail = some .directory := by
  cases dir with
  | nil => exact h
  | cons name dir => exact node?_parent h

theorem node?_start (h : t.node? dir = some .directory) (target : Path) :
    t.node? (start dir target) = some .directory := by
  rw [start]
  split
  · exact t.node?_root
  · exact h

theorem node?_cons_of_none (h : t.node? dir = none) : t.node? (name :: dir) = none := by
  cases hn : t.node? (name :: dir) with
  | none => rfl
  | some node => exact absurd (node?_parent hn) (by simp [h])

/-! ## Going down to a name -/

/-- Whether the purpose of a walk and the length of a name let the walk go down to the name,
whatever stands there. -/
def Enterable (purpose : Purpose) (name : Text) (rest : List Text) : Prop :=
  ¬(purpose = .write ∧ rest = [[]]) ∧ ¬255 < name.byteSize

/-- A name that cannot be gone down to is refused on every disk for the same reason. -/
theorem enter_of_not_enterable (h : ¬Enterable purpose name rest) :
    ∃ error, error ≠ .notFound ∧
      ∀ (t : FileTree) dir, t.enter purpose dir name rest = .stop (.failed error) := by
  by_cases hw : purpose = .write ∧ rest = [[]]
  · exact ⟨.isDirectory, by simp, fun t dir => by rw [enter, if_pos hw]⟩
  · have hlong : 255 < name.byteSize := Classical.byContradiction fun hs => h ⟨hw, hs⟩
    exact ⟨.nameTooLong, by simp, fun t dir => by rw [enter, if_neg hw, if_pos hlong]⟩

theorem enter_of_none (he : Enterable purpose name rest) (h : t.node? (name :: dir) = none) :
    t.enter purpose dir name rest =
      .stop (if rest = [] then .vacant name dir else .failed .notFound) := by
  simp only [enter, if_neg he.1, if_neg he.2, h]

theorem enter_of_link {target : Path} (he : Enterable purpose name rest)
    (h : t.node? (name :: dir) = some (.link target)) :
    t.enter purpose dir name rest =
      if rest = [] ∧ (purpose = .keep ∨ purpose = .make) then
        .stop (.node (name :: dir) (.link target))
      else .link target := by
  simp only [enter, if_neg he.1, if_neg he.2, h]

theorem enter_of_some {node : Node} (he : Enterable purpose name rest)
    (h : t.node? (name :: dir) = some node) (hlink : ∀ target, node ≠ .link target) :
    t.enter purpose dir name rest = .go (name :: dir) := by
  cases node with
  | directory => simp only [enter, if_neg he.1, if_neg he.2, h]
  | file content => simp only [enter, if_neg he.1, if_neg he.2, h]
  | link target => exact absurd rfl (hlink target)

/-- What a walk finds when it goes down to a name: a node to go on from, a link to follow, or its
end. -/
theorem enter_cases (t : FileTree) (purpose : Purpose) (dir : Place) (name : Text)
    (rest : List Text) :
    (∃ node, t.node? (name :: dir) = some node ∧ (∀ target, node ≠ .link target) ∧
      t.enter purpose dir name rest = .go (name :: dir)) ∨
    (∃ target, t.node? (name :: dir) = some (.link target) ∧
      (t.enter purpose dir name rest = .link target ∨
        rest = [] ∧ t.enter purpose dir name rest = .stop (.node (name :: dir) (.link target)))) ∨
    (t.node? (name :: dir) = none ∧ rest = [] ∧
      t.enter purpose dir name rest = .stop (.vacant name dir)) ∨
    ∃ error, t.enter purpose dir name rest = .stop (.failed error) := by
  by_cases he : Enterable purpose name rest
  · cases hn : t.node? (name :: dir) with
    | none =>
      rw [enter_of_none he hn]
      split
      · next hrest => exact Or.inr (Or.inr (Or.inl ⟨rfl, hrest, rfl⟩))
      · exact Or.inr (Or.inr (Or.inr ⟨_, rfl⟩))
    | some node =>
      by_cases hlink : ∃ target, node = .link target
      · obtain ⟨target, rfl⟩ := hlink
        rw [enter_of_link he hn]
        refine Or.inr (Or.inl ⟨target, rfl, ?_⟩)
        split
        · next hend => exact Or.inr ⟨hend.1, rfl⟩
        · exact Or.inl rfl
      · have hlink : ∀ target, node ≠ .link target := fun target e => hlink ⟨target, e⟩
        exact Or.inl ⟨node, rfl, hlink, enter_of_some he hn hlink⟩
  · obtain ⟨error, -, heq⟩ := enter_of_not_enterable he
    exact Or.inr (Or.inr (Or.inr ⟨error, heq t dir⟩))

/-- A name that is not found is vacant, and it is not the last one. -/
theorem enter_eq_notFound (h : t.enter purpose dir name rest = .stop (.failed .notFound)) :
    t.node? (name :: dir) = none ∧ rest ≠ [] := by
  by_cases he : Enterable purpose name rest
  · cases hn : t.node? (name :: dir) with
    | none =>
      rw [enter_of_none he hn] at h
      refine ⟨rfl, fun hrest => ?_⟩
      simp [hrest] at h
    | some node =>
      cases node with
      | link target =>
        rw [enter_of_link he hn] at h
        split at h <;> simp at h
      | directory => simp [enter_of_some he hn] at h
      | file content => simp [enter_of_some he hn] at h
  · obtain ⟨error, hne, hstop⟩ := enter_of_not_enterable he
    rw [hstop] at h
    simp [hne] at h

/-! ## One step -/

theorem advance_of_none (h : t.node? dir = none) :
    t.advance purpose dir step rest = .stop (.failed .notFound) := by
  simp only [advance, h]

theorem advance_of_ne_directory {node : Node} (h : t.node? dir = some node)
    (hne : node ≠ .directory) :
    t.advance purpose dir step rest = .stop (.failed .notDirectory) := by
  cases node with
  | directory => exact absurd rfl hne
  | file content => simp only [advance, h]
  | link target => simp only [advance, h]

/-- Whether a step stays where it is. -/
def IsStay (step : Text) : Prop := step = [] ∨ step = ['.']

theorem advance_of_isStay (h : t.node? dir = some .directory) (hs : IsStay step) :
    t.advance purpose dir step rest = .go dir := by
  simp only [advance, h]
  exact if_pos hs

theorem advance_up (h : t.node? dir = some .directory) :
    t.advance purpose dir ['.', '.'] rest = .go dir.tail := by
  simp only [advance, h]
  rw [if_neg (by simp), if_pos True.intro]

theorem advance_of_isName (h : t.node? dir = some .directory) (hs : ¬IsStay step)
    (hup : step ≠ ['.', '.']) :
    t.advance purpose dir step rest = t.enter purpose dir step rest := by
  simp only [advance, h]
  exact (if_neg hs).trans (if_neg hup)

/-- Only a step down to a name depends on the purpose of the walk and on the steps to come. -/
theorem advance_eq_or_enter (t : FileTree) (dir : Place) (step : Text) :
    (∃ result, ∀ purpose rest, t.advance purpose dir step rest = result) ∨
      (t.node? dir = some .directory ∧ ¬IsStay step ∧ step ≠ ['.', '.'] ∧
        ∀ purpose rest, t.advance purpose dir step rest = t.enter purpose dir step rest) := by
  cases hd : t.node? dir with
  | none => exact Or.inl ⟨_, fun _ _ => advance_of_none hd⟩
  | some node =>
    by_cases hdir : node = .directory
    · subst hdir
      by_cases hstay : IsStay step
      · exact Or.inl ⟨_, fun _ _ => advance_of_isStay hd hstay⟩
      · by_cases hup : step = ['.', '.']
        · subst hup
          exact Or.inl ⟨_, fun _ _ => advance_up hd⟩
        · exact Or.inr ⟨rfl, hstay, hup, fun _ _ => advance_of_isName hd hstay hup⟩
    · exact Or.inl ⟨_, fun _ _ => advance_of_ne_directory hd hdir⟩

/-- What one step can do: go on in a directory, follow a link, or come to its end. -/
theorem advance_cases (t : FileTree) (purpose : Purpose) (dir : Place) (step : Text)
    (rest : List Text) :
    (∃ place node, t.node? dir = some .directory ∧ t.node? place = some node ∧
      (∀ target, node ≠ .link target) ∧
      (IsStay step ∧ place = dir ∨ step = ['.', '.'] ∧ place = dir.tail ∨ place = step :: dir) ∧
      t.advance purpose dir step rest = .go place) ∨
    (∃ target, t.node? dir = some .directory ∧ t.node? (step :: dir) = some (.link target) ∧
      (t.advance purpose dir step rest = .link target ∨
        rest = [] ∧ t.advance purpose dir step rest = .stop (.node (step :: dir) (.link target)))) ∨
    (t.node? dir = some .directory ∧ t.node? (step :: dir) = none ∧ rest = [] ∧
      t.advance purpose dir step rest = .stop (.vacant step dir)) ∨
    ∃ error, t.advance purpose dir step rest = .stop (.failed error) := by
  cases hd : t.node? dir with
  | none => exact Or.inr (Or.inr (Or.inr ⟨_, advance_of_none hd⟩))
  | some node =>
    by_cases hdir : node = .directory
    · subst hdir
      by_cases hstay : IsStay step
      · exact Or.inl ⟨dir, _, rfl, hd, by simp, Or.inl ⟨hstay, rfl⟩, advance_of_isStay hd hstay⟩
      · by_cases hup : step = ['.', '.']
        · subst hup
          exact Or.inl ⟨dir.tail, _, rfl, node?_tail hd, by simp, Or.inr (Or.inl ⟨rfl, rfl⟩),
            advance_up hd⟩
        · rw [advance_of_isName hd hstay hup]
          rcases enter_cases t purpose dir step rest with
            ⟨node, hn, hlink, he⟩ | ⟨target, hn, he⟩ | ⟨hn, hrest, he⟩ | ⟨error, he⟩
          · exact Or.inl ⟨_, node, rfl, hn, hlink, Or.inr (Or.inr rfl), he⟩
          · exact Or.inr (Or.inl ⟨target, rfl, hn, he⟩)
          · exact Or.inr (Or.inr (Or.inl ⟨rfl, hn, hrest, he⟩))
          · exact Or.inr (Or.inr (Or.inr ⟨error, he⟩))
    · exact Or.inr (Or.inr (Or.inr ⟨_, advance_of_ne_directory hd hdir⟩))

theorem advance_eq_go (h : t.advance purpose dir step rest = .go place) :
    t.node? dir = some .directory ∧
      (∃ node, t.node? place = some node ∧ ∀ target, node ≠ .link target) ∧
      (IsStay step ∧ place = dir ∨ step = ['.', '.'] ∧ place = dir.tail ∨ place = step :: dir) := by
  rcases advance_cases t purpose dir step rest with
    ⟨_, node, hd, hn, hlink, hplace, hc⟩ | ⟨_, -, -, hc | ⟨-, hc⟩⟩ | ⟨-, -, -, hc⟩ | ⟨_, hc⟩ <;>
    rw [h] at hc <;> simp only [reduceCtorEq, Advance.go.injEq] at hc
  -- Only the first case goes on.
  subst hc
  exact ⟨hd, ⟨node, hn, hlink⟩, hplace⟩

theorem advance_eq_link {target : Path} (h : t.advance purpose dir step rest = .link target) :
    t.node? dir = some .directory ∧ t.node? (step :: dir) = some (.link target) := by
  rcases advance_cases t purpose dir step rest with
    ⟨_, _, -, -, -, -, hc⟩ | ⟨_, hd, hn, hc | ⟨-, hc⟩⟩ | ⟨-, -, -, hc⟩ | ⟨_, hc⟩ <;>
    rw [h] at hc <;> simp only [reduceCtorEq, Advance.link.injEq] at hc
  subst hc
  exact ⟨hd, hn⟩

/-- The only node that a single step ends at is a link. -/
theorem advance_eq_node {node : Node}
    (h : t.advance purpose dir step rest = .stop (.node place node)) :
    place = step :: dir ∧ rest = [] ∧ ∃ target, node = .link target ∧
      t.node? (step :: dir) = some (.link target) := by
  rcases advance_cases t purpose dir step rest with
    ⟨_, _, -, -, -, -, hc⟩ | ⟨target, -, hn, hc | ⟨hrest, hc⟩⟩ | ⟨-, -, -, hc⟩ | ⟨_, hc⟩ <;>
    rw [h] at hc <;>
    simp only [reduceCtorEq, Advance.stop.injEq, Landing.node.injEq] at hc
  exact ⟨hc.1, hrest, target, hc.2, hn⟩

theorem advance_eq_vacant (h : t.advance purpose dir step rest = .stop (.vacant name place)) :
    name = step ∧ place = dir ∧ t.node? dir = some .directory ∧ t.node? (step :: dir) = none := by
  rcases advance_cases t purpose dir step rest with
    ⟨_, _, -, -, -, -, hc⟩ | ⟨_, -, -, hc | ⟨-, hc⟩⟩ | ⟨hd, hn, -, hc⟩ | ⟨_, hc⟩ <;>
    rw [h] at hc <;>
    simp only [reduceCtorEq, Advance.stop.injEq, Landing.vacant.injEq] at hc
  exact ⟨hc.1, hc.2, hd, hn⟩

/-- A step that finds nothing lacks its directory, or is a name that is not the last one. -/
theorem advance_eq_notFound (h : t.advance purpose dir step rest = .stop (.failed .notFound)) :
    t.node? dir = none ∨
      t.node? dir = some .directory ∧ t.node? (step :: dir) = none ∧ rest ≠ [] := by
  cases hd : t.node? dir with
  | none => exact Or.inl rfl
  | some node =>
    by_cases hdir : node = .directory
    · subst hdir
      by_cases hstay : IsStay step
      · simp [advance_of_isStay hd hstay] at h
      · by_cases hup : step = ['.', '.']
        · subst hup
          simp [advance_up hd] at h
        · rw [advance_of_isName hd hstay hup] at h
          exact Or.inr ⟨rfl, enter_eq_notFound h⟩
    · simp [advance_of_ne_directory hd hdir] at h

/-! ## Stretches and walks, opened one step at a time -/

theorem stretch_nil {node : Node} (h : t.node? place = some node) :
    t.stretch purpose place [] = .landed (.node place node) := by
  simp only [stretch, h]

theorem stretch_cons_of_go (h : t.advance purpose dir step rest = .go place) :
    t.stretch purpose dir (step :: rest) = t.stretch purpose place rest := by
  rw [stretch, h]

theorem stretch_cons_of_link {target : Path} (h : t.advance purpose dir step rest = .link target) :
    t.stretch purpose dir (step :: rest) = .link dir target rest := by
  rw [stretch, h]

theorem stretch_cons_of_stop {landing : Landing}
    (h : t.advance purpose dir step rest = .stop landing) :
    t.stretch purpose dir (step :: rest) = .landed landing := by
  rw [stretch, h]

theorem walk_of_landed {landing : Landing} (h : t.stretch purpose dir steps = .landed landing)
    (links : Nat) : t.walk purpose links dir steps = landing := by
  cases links <;> simp only [walk, h]

theorem walk_zero_of_link {target : Path}
    (h : t.stretch purpose dir steps = .link place target rest) :
    t.walk purpose 0 dir steps = .failed .tooManyLinks := by
  simp only [walk, h]

theorem walk_succ_of_link {target : Path}
    (h : t.stretch purpose dir steps = .link place target rest) (links : Nat) :
    t.walk purpose (links + 1) dir steps
      = t.walk purpose links (start place target) (target.steps ++ rest) := by
  simp only [walk, h]

/-! ## Simulation -/

/-- Whether a stretch goes along with another one, given how their ends are to be related and what
is to hold where a walk is taken up again: both come to the same link, or the first has come to an
end that is related to whatever the second comes to. -/
def Follows (R : Landing → Landing → Prop) (I : Place → List Text → Prop) :
    Stretch → Stretch → Prop
  | .landed landing, s' => (∀ other, R landing other) ∨ ∃ other, s' = .landed other ∧ R landing other
  | .link dir target rest, s' =>
    s' = .link dir target rest ∧ I (start dir target) (target.steps ++ rest)

section Simulation

variable {t' : FileTree} {purpose' : Purpose} {R : Landing → Landing → Prop}
  {I : Place → List Text → Prop}

theorem stretch_follows
    (hnil : ∀ place, I place [] → Follows R I (t.stretch purpose place []) (t'.stretch purpose' place []))
    (hcons : ∀ dir step rest, I dir (step :: rest) →
      (∃ place, t.advance purpose dir step rest = .go place ∧
        t'.advance purpose' dir step rest = .go place ∧ I place rest) ∨
      Follows R I (t.stretch purpose dir (step :: rest)) (t'.stretch purpose' dir (step :: rest)))
    (steps : List Text) :
    ∀ place, I place steps →
      Follows R I (t.stretch purpose place steps) (t'.stretch purpose' place steps) := by
  induction steps with
  | nil => exact hnil
  | cons step rest ih =>
    intro dir hI
    rcases hcons dir step rest hI with ⟨place, ha, ha', hI'⟩ | hf
    · rw [stretch_cons_of_go ha, stretch_cons_of_go ha']
      exact ih place hI'
    · exact hf

/-- Walks whose stretches go along with each other come to related ends. -/
theorem walk_rel (hlinks : R (.failed .tooManyLinks) (.failed .tooManyLinks))
    (hstretch : ∀ dir steps, I dir steps →
      Follows R I (t.stretch purpose dir steps) (t'.stretch purpose' dir steps))
    (links : Nat) :
    ∀ dir steps, I dir steps →
      R (t.walk purpose links dir steps) (t'.walk purpose' links dir steps) := by
  induction links with
  | zero =>
    intro dir steps hI
    have hf := hstretch dir steps hI
    cases hs : t.stretch purpose dir steps with
    | landed landing =>
      rw [hs] at hf
      rw [walk_of_landed hs]
      rcases hf with hall | ⟨other, hs', hR⟩
      · exact hall _
      · rwa [walk_of_landed hs']
    | link place target rest =>
      rw [hs] at hf
      rw [walk_zero_of_link hs, walk_zero_of_link hf.1]
      exact hlinks
  | succ links ih =>
    intro dir steps hI
    have hf := hstretch dir steps hI
    cases hs : t.stretch purpose dir steps with
    | landed landing =>
      rw [hs] at hf
      rw [walk_of_landed hs]
      rcases hf with hall | ⟨other, hs', hR⟩
      · exact hall _
      · rwa [walk_of_landed hs']
    | link place target rest =>
      -- Both walks are taken up again at the same place with the same steps, where `I` holds.
      rw [hs] at hf
      rw [walk_succ_of_link hs, walk_succ_of_link hf.1]
      exact ih _ _ hf.2

end Simulation

end FileTree

end CrudScaffold
