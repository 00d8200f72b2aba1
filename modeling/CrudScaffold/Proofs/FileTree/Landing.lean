import CrudScaffold.Proofs.FileTree.Simulation

set_option autoImplicit false

/-! # Where walks land

A landing tells the truth about the disk (`FileTree.locate_holds`), and it does not depend on the
purpose of the walk unless a link or a slash at the end of the path is in question
(`FileTree.locate_follow`). -/

namespace CrudScaffold

namespace FileTree

variable {t : FileTree} {purpose : Purpose} {cwd dir place : Place} {step : Text}
  {rest steps : List Text} {p : Path}

/-! ## What a landing says -/

/-- Whether a landing tells the truth about a disk: the node stands at its place, and a vacant
name is missing from its directory. -/
def Holds (t : FileTree) : Landing → Prop
  | .node place node => t.node? place = some node
  | .vacant name dir => t.node? dir = some .directory ∧ t.node? (name :: dir) = none
  | .failed _ => True

/-- A walk is taken up again after a link only. -/
private theorem stretch_holds (steps : List Text) (place : Place) :
    Follows (fun landing _ => t.Holds landing) (fun _ _ => True)
      (t.stretch purpose place steps) (t.stretch purpose place steps) := by
  refine stretch_follows ?_ ?_ steps place True.intro
  · intro place _
    cases h : t.node? place with
    | none =>
      simp only [stretch, h]
      exact Or.inl fun _ => True.intro
    | some node =>
      rw [stretch_nil h]
      exact Or.inl fun _ => h
  · intro dir step rest _
    rcases advance_cases t purpose dir step rest with
      ⟨place, -, -, -, -, -, ha⟩ | ⟨target, -, hn, ha | ⟨-, ha⟩⟩ | ⟨hd, hn, -, ha⟩ | ⟨error, ha⟩
    · exact Or.inl ⟨place, ha, ha, True.intro⟩
    · rw [stretch_cons_of_link ha]
      exact Or.inr ⟨rfl, True.intro⟩
    · rw [stretch_cons_of_stop ha]
      exact Or.inr (Or.inl fun _ => hn)
    · rw [stretch_cons_of_stop ha]
      exact Or.inr (Or.inl fun _ => ⟨hd, hn⟩)
    · rw [stretch_cons_of_stop ha]
      exact Or.inr (Or.inl fun _ => True.intro)

theorem walk_holds (links : Nat) (dir : Place) (steps : List Text) :
    t.Holds (t.walk purpose links dir steps) :=
  walk_rel (R := fun landing _ => t.Holds landing) (I := fun _ _ => True) True.intro
    (fun dir steps _ => stretch_holds steps dir) links dir steps True.intro

/-! ## Looking a path up -/

/-- Whether the text of a path is refused before anything on the disk is looked at. -/
def IsRefused (p : Path) : Prop := '\x00' ∈ p.text ∨ p.text = [] ∨ 4096 ≤ p.text.byteSize

theorem text_ne_nil (h : ¬IsRefused p) : p.text ≠ [] := fun e => h (Or.inr (Or.inl e))

theorem locate_of_isRefused (h : IsRefused p) :
    ∃ error, ∀ (t : FileTree) cwd purpose, t.locate cwd purpose p = .failed error := by
  by_cases hnul : '\x00' ∈ p.text
  · exact ⟨.nulInPath, fun t cwd purpose => by rw [locate, if_pos hnul]⟩
  · by_cases hempty : p.text = []
    · exact ⟨.notFound, fun t cwd purpose => by rw [locate, if_neg hnul, if_pos hempty]⟩
    · have hlong : 4096 ≤ p.text.byteSize := (h.resolve_left hnul).resolve_left hempty
      exact ⟨.nameTooLong, fun t cwd purpose => by
        rw [locate, if_neg hnul, if_neg hempty, if_pos hlong]⟩

theorem locate_of_not_isRefused (h : ¬IsRefused p) (t : FileTree) (cwd : Place)
    (purpose : Purpose) :
    t.locate cwd purpose p
      = t.walk purpose 40 (start cwd p) (if purpose = .make then p.names else p.steps) := by
  simp only [IsRefused, not_or] at h
  rw [locate, if_neg h.1, if_neg h.2.1, if_neg h.2.2]

/-- A relative path has a step to take. -/
theorem steps_ne_nil (hr : ¬IsRefused p) (h : p.isAbsolute = false) : p.steps ≠ [] := by
  have hnames : p.names ≠ [] := by
    obtain ⟨text⟩ := p
    cases text with
    | nil => exact absurd (Or.inr (Or.inl rfl)) hr
    | cons c text =>
      have hc : c ≠ '/' := by simpa [Path.isAbsolute] using h
      rw [Path.names, Path.pieces, Text.splitOn, if_neg hc]
      split <;> simp
  rw [Path.steps]
  split
  · simp
  · exact hnames

theorem locate_holds (t : FileTree) (cwd : Place) (purpose : Purpose) (p : Path) :
    t.Holds (t.locate cwd purpose p) := by
  by_cases h : IsRefused p
  · obtain ⟨error, he⟩ := locate_of_isRefused h
    rw [he]
    exact True.intro
  · rw [locate_of_not_isRefused h]
    exact walk_holds _ _ _

theorem node?_of_locate {node : Node} (h : t.locate cwd purpose p = .node place node) :
    t.node? place = some node := by
  have := t.locate_holds cwd purpose p
  rwa [h] at this

theorem node?_of_locate_vacant {name : Text} (h : t.locate cwd purpose p = .vacant name dir) :
    t.node? dir = some .directory ∧ t.node? (name :: dir) = none := by
  have := t.locate_holds cwd purpose p
  rwa [h] at this

/-! ## The purpose of a walk -/

/-- Whether a landing depends on the purpose of the walk: it is a link that was not followed, or
the refusal of a slash at the end. -/
def IsOfPurpose (purpose : Purpose) (landing : Landing) : Prop :=
  (∃ place target, landing = .node place (.link target)) ∨
    purpose = .write ∧ landing = .failed .isDirectory

theorem enter_follow (t : FileTree) (purpose : Purpose) (dir : Place) (name : Text)
    (rest : List Text) :
    t.enter purpose dir name rest = t.enter .follow dir name rest ∨
      ∃ landing, t.enter purpose dir name rest = .stop landing ∧ IsOfPurpose purpose landing := by
  by_cases hw : purpose = .write ∧ rest = [[]]
  · exact Or.inr ⟨_, by rw [enter, if_pos hw], Or.inr ⟨hw.1, rfl⟩⟩
  · by_cases hlong : 255 < name.byteSize
    · exact Or.inl (by simp [enter, hw, hlong])
    · have he : Enterable purpose name rest := ⟨hw, hlong⟩
      have hf : Enterable .follow name rest := ⟨by simp, hlong⟩
      cases hn : t.node? (name :: dir) with
      | none => exact Or.inl ((enter_of_none he hn).trans (enter_of_none hf hn).symm)
      | some node =>
        by_cases hlink : ∃ target, node = .link target
        · obtain ⟨target, rfl⟩ := hlink
          rw [enter_of_link he hn, enter_of_link hf hn]
          split
          · exact Or.inr ⟨_, rfl, Or.inl ⟨_, _, rfl⟩⟩
          · exact Or.inl (by simp)
        · have hlink : ∀ target, node ≠ .link target := fun target e => hlink ⟨target, e⟩
          exact Or.inl ((enter_of_some he hn hlink).trans (enter_of_some hf hn hlink).symm)

theorem advance_follow (t : FileTree) (purpose : Purpose) (dir : Place) (step : Text)
    (rest : List Text) :
    t.advance purpose dir step rest = t.advance .follow dir step rest ∨
      ∃ landing, t.advance purpose dir step rest = .stop landing ∧ IsOfPurpose purpose landing := by
  rcases advance_eq_or_enter t dir step with ⟨result, h⟩ | ⟨-, -, -, h⟩
  · exact Or.inl ((h _ _).trans (h _ _).symm)
  · rw [h, h]
    exact enter_follow t purpose dir step rest

theorem stretch_follow (steps : List Text) (place : Place) :
    Follows (fun landing other => IsOfPurpose purpose landing ∨ other = landing) (fun _ _ => True)
      (t.stretch purpose place steps) (t.stretch .follow place steps) := by
  refine stretch_follows ?_ ?_ steps place True.intro
  · intro place _
    cases h : t.node? place with
    | none =>
      simp only [stretch, h]
      exact Or.inr ⟨_, rfl, Or.inr rfl⟩
    | some node =>
      rw [stretch_nil h, stretch_nil h]
      exact Or.inr ⟨_, rfl, Or.inr rfl⟩
  · intro dir step rest _
    rcases advance_follow t purpose dir step rest with hsame | ⟨landing, ha, hof⟩
    · cases ha : t.advance purpose dir step rest with
      | go place => exact Or.inl ⟨place, rfl, hsame ▸ ha, True.intro⟩
      | link target =>
        rw [stretch_cons_of_link ha, stretch_cons_of_link (hsame ▸ ha)]
        exact Or.inr ⟨rfl, True.intro⟩
      | stop landing =>
        rw [stretch_cons_of_stop ha, stretch_cons_of_stop (hsame ▸ ha)]
        exact Or.inr (Or.inr ⟨_, rfl, Or.inr rfl⟩)
    · rw [stretch_cons_of_stop ha]
      exact Or.inr (Or.inl fun _ => Or.inl hof)

theorem walk_follow (links : Nat) (dir : Place) (steps : List Text)
    (h : ¬IsOfPurpose purpose (t.walk purpose links dir steps)) :
    t.walk .follow links dir steps = t.walk purpose links dir steps :=
  (walk_rel (R := fun landing other => IsOfPurpose purpose landing ∨ other = landing)
    (I := fun _ _ => True) (Or.inr rfl) (fun dir steps _ => stretch_follow steps dir) links dir steps
    True.intro).resolve_left h

/-- A landing that does not depend on the purpose is where the path leads with links followed. -/
theorem locate_follow (hmake : purpose ≠ .make) (h : ¬IsOfPurpose purpose (t.locate cwd purpose p)) :
    t.locate cwd .follow p = t.locate cwd purpose p := by
  by_cases hr : IsRefused p
  · obtain ⟨error, he⟩ := locate_of_isRefused hr
    rw [he, he]
  · rw [locate_of_not_isRefused hr, if_neg hmake] at h
    rw [locate_of_not_isRefused hr, locate_of_not_isRefused hr, if_neg hmake, if_neg (by simp)]
    exact walk_follow _ _ _ h

/-- A path at which nothing stands leads nowhere, for the same reason. -/
theorem locate_follow_of_not_isOccupied (h : t.isOccupied cwd p = false) :
    t.locate cwd .follow p = t.locate cwd .keep p := by
  refine locate_follow (by simp) ?_
  rintro (⟨place, target, hl⟩ | ⟨hw, -⟩)
  · simp [isOccupied, hl] at h
  · exact absurd hw (by simp)

/-- Whatever a path leads to, something stands at the path itself. -/
theorem isOccupied_of_exists? (h : t.exists? cwd p = true) : t.isOccupied cwd p = true := by
  cases ho : t.isOccupied cwd p with
  | true => rfl
  | false =>
    rw [exists?, locate_follow_of_not_isOccupied ho] at h
    exact absurd (ho.symm.trans h) (by simp)

/-! ## Steps to come -/

/-- What a step of a walk comes to if more steps follow: where it was to end, something is missing. -/
def further : Advance → Advance
  | .stop (.vacant ..) => .stop (.failed .notFound)
  | result => result

/-- What a stretch of a walk comes to if more steps follow. -/
def goOn (t : FileTree) (purpose : Purpose) (tail : List Text) : Stretch → Stretch
  | .landed (.node place _) => t.stretch purpose place tail
  | .landed (.vacant ..) => .landed (.failed .notFound)
  | .landed (.failed error) => .landed (.failed error)
  | .link dir target rest => .link dir target (rest ++ tail)

theorem advance_follow_ne_node {node : Node} :
    t.advance .follow dir step rest ≠ .stop (.node place node) := by
  intro h
  obtain ⟨rfl, -, target, rfl, hlink⟩ := advance_eq_node h
  rcases advance_eq_or_enter t dir step with ⟨result, hr⟩ | ⟨-, -, -, hr⟩
  · -- With a step to come the end would be the same, but only a last step ends at a node.
    have hmore := advance_eq_node ((hr .follow [[]]).trans ((hr .follow rest).symm.trans h))
    simp at hmore
  · rw [hr] at h
    by_cases he : Enterable .follow step rest
    · simp [enter_of_link he hlink] at h
    · obtain ⟨error, -, hstop⟩ := enter_of_not_enterable he
      simp [hstop] at h

section Append

variable {tail : List Text} (hpurpose : purpose ≠ .write) (htail : tail ≠ [])
include hpurpose htail

theorem enter_append (t : FileTree) (dir : Place) (name : Text) (rest : List Text) :
    t.enter purpose dir name (rest ++ tail) = further (t.enter .follow dir name rest) := by
  have hmore : rest ++ tail ≠ [] := by simp [htail]
  by_cases hlong : 255 < name.byteSize
  · simp [enter, further, hpurpose, hlong]
  · have he : Enterable purpose name (rest ++ tail) := ⟨fun h => hpurpose h.1, hlong⟩
    have hf : Enterable .follow name rest := ⟨by simp, hlong⟩
    cases hn : t.node? (name :: dir) with
    | none =>
      rw [enter_of_none he hn, enter_of_none hf hn, if_neg hmore]
      split <;> rfl
    | some node =>
      by_cases hlink : ∃ target, node = .link target
      · obtain ⟨target, rfl⟩ := hlink
        rw [enter_of_link he hn, enter_of_link hf hn, if_neg fun h => hmore h.1, if_neg (by simp)]
        rfl
      · have hlink : ∀ target, node ≠ .link target := fun target e => hlink ⟨target, e⟩
        rw [enter_of_some he hn hlink, enter_of_some hf hn hlink]
        rfl

theorem advance_append (t : FileTree) (dir : Place) (step : Text) (rest : List Text) :
    t.advance purpose dir step (rest ++ tail) = further (t.advance .follow dir step rest) := by
  cases hd : t.node? dir with
  | none =>
    rw [advance_of_none hd, advance_of_none hd]
    rfl
  | some node =>
    by_cases hdir : node = .directory
    · subst hdir
      by_cases hstay : IsStay step
      · rw [advance_of_isStay hd hstay, advance_of_isStay hd hstay]
        rfl
      · by_cases hup : step = ['.', '.']
        · subst hup
          rw [advance_up hd, advance_up hd]
          rfl
        · rw [advance_of_isName hd hstay hup, advance_of_isName hd hstay hup]
          exact enter_append hpurpose htail t dir step rest
    · rw [advance_of_ne_directory hd hdir, advance_of_ne_directory hd hdir]
      rfl

/-- With steps to come, a walk that is not for writing takes its first ones as one that follows
every link. -/
theorem stretch_append (t : FileTree) (steps : List Text) : ∀ place,
    t.stretch purpose place (steps ++ tail) = t.goOn purpose tail (t.stretch .follow place steps) := by
  induction steps with
  | nil =>
    intro place
    cases hp : t.node? place with
    | none =>
      obtain ⟨step, rest, rfl⟩ := List.exists_cons_of_ne_nil htail
      simp only [List.nil_append, stretch, advance_of_none hp, hp, goOn]
    | some node => rw [List.nil_append, stretch_nil hp, goOn]
  | cons step rest ih =>
    intro dir
    have happend := advance_append hpurpose htail t dir step rest
    rw [List.cons_append]
    cases ha : t.advance .follow dir step rest with
    | go place =>
      rw [ha] at happend
      rw [stretch_cons_of_go happend, stretch_cons_of_go ha]
      exact ih place
    | link target =>
      -- The steps to come are handed on with the rest to where the link leads.
      rw [ha] at happend
      rw [stretch_cons_of_link happend, stretch_cons_of_link ha, goOn]
    | stop landing =>
      rw [ha] at happend
      rw [stretch_cons_of_stop ha]
      cases landing with
      | node place node => exact absurd ha advance_follow_ne_node
      | vacant name dir => exact stretch_cons_of_stop happend
      | failed error => exact stretch_cons_of_stop happend

theorem walk_append_of_landed {landing : Landing} (hs : t.stretch .follow dir steps = .landed landing)
    (links : Nat) :
    (∃ place node, landing = .node place node ∧
      t.walk purpose links dir (steps ++ tail) = t.walk purpose links place tail) ∨
    ((∀ place node, landing ≠ .node place node) ∧
      ∃ error, t.walk purpose links dir (steps ++ tail) = .failed error) := by
  have happend := stretch_append hpurpose htail t steps dir
  rw [hs] at happend
  cases landing with
  | node place node =>
    refine Or.inl ⟨place, node, rfl, ?_⟩
    cases links <;> simp only [walk, happend, goOn]
  | vacant name place => exact Or.inr ⟨by simp, _, walk_of_landed happend links⟩
  | failed error => exact Or.inr ⟨by simp, _, walk_of_landed happend links⟩

/-- **Walks in two parts.** A walk that has come to a node goes on from there, and one that has come
to none fails. -/
theorem walk_append (links : Nat) : ∀ dir steps,
    (∃ place node links', t.walk .follow links dir steps = .node place node ∧
      t.walk purpose links dir (steps ++ tail) = t.walk purpose links' place tail) ∨
    ((∀ place node, t.walk .follow links dir steps ≠ .node place node) ∧
      ∃ error, t.walk purpose links dir (steps ++ tail) = .failed error) := by
  induction links with
  | zero =>
    intro dir steps
    cases hs : t.stretch .follow dir steps with
    | landed landing =>
      rw [walk_of_landed hs]
      exact (walk_append_of_landed hpurpose htail hs 0).imp_left
        fun ⟨place, node, hnode, hwalk⟩ => ⟨place, node, 0, hnode, hwalk⟩
    | link place target rest =>
      have happend := stretch_append hpurpose htail t steps dir
      rw [hs, goOn] at happend
      rw [walk_zero_of_link hs]
      exact Or.inr ⟨by simp, _, walk_zero_of_link happend⟩
  | succ links ih =>
    intro dir steps
    cases hs : t.stretch .follow dir steps with
    | landed landing =>
      rw [walk_of_landed hs]
      exact (walk_append_of_landed hpurpose htail hs (links + 1)).imp_left
        fun ⟨place, node, hnode, hwalk⟩ => ⟨place, node, links + 1, hnode, hwalk⟩
    | link place target rest =>
      have happend := stretch_append hpurpose htail t steps dir
      rw [hs, goOn] at happend
      rw [walk_succ_of_link hs, walk_succ_of_link happend, ← List.append_assoc]
      exact ih _ _

end Append

theorem walk_append_slash (links : Nat) (dir : Place) (steps : List Text)
    (h : t.walk .follow links dir steps = .node place .directory) :
    t.walk .follow links dir (steps ++ [[]]) = .node place .directory := by
  have hplace : t.node? place = some .directory := by
    have hholds : t.Holds (t.walk .follow links dir steps) := t.walk_holds links dir steps
    rwa [h] at hholds
  have hslash : t.stretch .follow place [[]] = .landed (.node place .directory) :=
    (stretch_cons_of_go (advance_of_isStay hplace (Or.inl rfl))).trans (stretch_nil hplace)
  have hslash_ne_nil : [([] : Text)] ≠ [] := by simp
  rcases t.walk_append (by simp : Purpose.follow ≠ .write) hslash_ne_nil links dir steps with
    ⟨_, _, links', hnode, hwalk⟩ | ⟨hnot, -⟩
  · obtain ⟨rfl, rfl⟩ := Landing.node.inj (h.symm.trans hnode)
    rw [hwalk, walk_of_landed hslash]
  · exact absurd h (hnot _ _)

/-- Where no directory can be made because there is one, the path leads to it. -/
theorem locate_follow_of_make (h : t.locate cwd .make p = .node place .directory) :
    t.locate cwd .follow p = .node place .directory := by
  by_cases hr : IsRefused p
  · obtain ⟨error, he⟩ := locate_of_isRefused hr
    simp [he] at h
  · rw [locate_of_not_isRefused hr, if_pos rfl] at h
    rw [locate_of_not_isRefused hr, if_neg (by simp)]
    have hwalk : t.walk .follow 40 (start cwd p) p.names = .node place .directory := by
      rw [← h]
      refine walk_follow _ _ _ ?_
      simp [h, IsOfPurpose]
    -- Making ignores a slash at the end, following asks for a directory there.
    rw [Path.steps]
    split
    · exact walk_append_slash _ _ _ hwalk
    · exact hwalk

end FileTree

end CrudScaffold
