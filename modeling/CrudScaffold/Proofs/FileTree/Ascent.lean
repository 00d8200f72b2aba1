import CrudScaffold.Proofs.FileTree.Ladder

set_option autoImplicit false

/-! # The way up a path

Above an absolute path without two dots, each path goes on from the next one by a name
(`FileTree.ascent_of_parent?`). Then, links or no links, what a directory is to be made of is looked
for under that name, in the directory that the path above leads to
(`FileTree.GoesOn.locate_make`). -/

namespace CrudScaffold

namespace FileTree

variable {t t' : FileTree} {purpose : Purpose} {cwd dir place : Place} {name step : Text}
  {rest steps dots tail : List Text} {p parent : Path} {above : List Path}

/-! ## The last name of a walk -/

/-- What is found under a name of a directory when a directory is to be made there. -/
def look (t : FileTree) (dir : Place) (name : Text) : Landing :=
  if 255 < name.byteSize then .failed .nameTooLong
  else match t.node? (name :: dir) with
    | none => .vacant name dir
    | some node => .node (name :: dir) node

theorem look_ne_notFound : t.look dir name ≠ .failed .notFound := by
  rw [look]
  split
  · simp
  · split <;> simp

theorem look_of_none (h : t.node? (name :: dir) = none) :
    t.look dir name = .failed .nameTooLong ∨ t.look dir name = .vacant name dir := by
  rw [look, h]
  split
  · exact Or.inl rfl
  · exact Or.inr rfl

theorem look_eq_vacant (h : t.look dir name = .vacant step place) :
    step = name ∧ place = dir ∧ t.node? (name :: dir) = none := by
  rw [look] at h
  split at h
  · simp at h
  · split at h
    · next hnone =>
      obtain ⟨rfl, rfl⟩ := Landing.vacant.inj h
      exact ⟨rfl, rfl, hnone⟩
    · simp at h

theorem stretch_make_last (hdir : t.node? dir = some .directory) (hstay : ¬IsStay name)
    (hup : name ≠ ['.', '.']) : t.stretch .make dir [name] = .landed (t.look dir name) := by
  have ha : t.advance .make dir name [] = t.enter .make dir name [] :=
    advance_of_isName hdir hstay hup
  by_cases hlong : 255 < name.byteSize
  · have he : t.enter .make dir name [] = .stop (.failed .nameTooLong) := by simp [enter, hlong]
    rw [stretch_cons_of_stop (ha.trans he), look, if_pos hlong]
  · have hmay : Enterable .make name [] := ⟨by simp, hlong⟩
    rw [look, if_neg hlong]
    cases hn : t.node? (name :: dir) with
    | none => exact stretch_cons_of_stop (ha.trans (enter_of_none hmay hn))
    | some node =>
      by_cases hlink : ∃ target, node = .link target
      · obtain ⟨target, rfl⟩ := hlink
        exact stretch_cons_of_stop (ha.trans (enter_of_link hmay hn))
      · have hlink : ∀ target, node ≠ .link target := fun target e => hlink ⟨target, e⟩
        rw [stretch_cons_of_go (ha.trans (enter_of_some hmay hn hlink)), stretch_nil hn]

/-- Dots before the last name are passed over. -/
theorem walk_make_last (hdir : t.node? dir = some .directory) (hdots : ∀ dot ∈ dots, IsStay dot)
    (hstay : ¬IsStay name) (hup : name ≠ ['.', '.']) (links : Nat) :
    t.walk .make links dir (dots ++ [name]) = t.look dir name := by
  have hstretch : t.stretch .make dir (dots ++ [name]) = .landed (t.look dir name) := by
    rw [stretch_append (by simp) (by simp), stretch_of_isStay dots hdir hdots, goOn]
    exact stretch_make_last hdir hstay hup
  exact walk_of_landed hstretch links

theorem walk_of_ne_directory {node : Node} (hplace : t.node? place = some node)
    (hne : node ≠ .directory) (htail : tail ≠ []) (links : Nat) :
    t.walk purpose links place tail = .failed .notDirectory := by
  obtain ⟨step, rest, rfl⟩ := List.exists_cons_of_ne_nil htail
  exact walk_of_landed (stretch_cons_of_stop (advance_of_ne_directory hplace hne)) links

/-! ## From a path to the one above it -/

/-- Whether a path goes on from another one by a name, with nothing but dots between them, and a
disk accepts both. -/
structure GoesOn (name : Text) (parent p : Path) : Prop where
  names_eq : ∃ dots, (∀ dot ∈ dots, IsStay dot) ∧ p.names = parent.names ++ (dots ++ [name])
  not_isStay : ¬IsStay name
  ne_up : name ≠ ['.', '.']
  start_eq : ∀ cwd, start cwd p = start cwd parent
  not_isRefused : ¬IsRefused p
  not_isRefused_parent : ¬IsRefused parent
  /-- Neither of them ends in a slash after a name. -/
  steps_eq : p.steps = p.names
  steps_parent_eq : parent.steps = parent.names

/-- **The last name of a path.** Where the path above leads to a directory, the name is looked for
there. Else no directory can be made, and the reason is absence only if the path above leads to
nothing. -/
theorem GoesOn.locate_make (h : GoesOn name parent p) (t : FileTree) (cwd : Place) :
    (∃ dir, t.locate cwd .follow parent = .node dir .directory ∧
      t.locate cwd .make p = t.look dir name) ∨
    ((∀ dir, t.locate cwd .follow parent ≠ .node dir .directory) ∧
      ∃ error, t.locate cwd .make p = .failed error ∧
        (error = .notFound → t.exists? cwd parent = false)) := by
  obtain ⟨dots, hdots, hnames⟩ := h.names_eq
  have hp := locate_of_not_isRefused h.not_isRefused t cwd .make
  have hparent := locate_of_not_isRefused h.not_isRefused_parent t cwd .follow
  rw [if_pos rfl, hnames, h.start_eq] at hp
  rw [if_neg (by simp), h.steps_parent_eq] at hparent
  have hlast : dots ++ [name] ≠ [] := by simp
  rcases t.walk_append (by simp : Purpose.make ≠ .write) hlast 40 (start cwd parent) parent.names with
    ⟨place, node, links, hnode, hwalk⟩ | ⟨hnot, error, hwalk⟩
  · have hplace : t.node? place = some node := by
      have hholds : t.Holds (t.walk .follow 40 (start cwd parent) parent.names) :=
        t.walk_holds 40 (start cwd parent) parent.names
      rwa [hnode] at hholds
    rw [hnode] at hparent
    rw [hwalk] at hp
    by_cases hdirectory : node = .directory
    · subst hdirectory
      exact Or.inl ⟨place, hparent,
        hp.trans (walk_make_last hplace hdots h.not_isStay h.ne_up links)⟩
    · refine Or.inr ⟨fun dir e => ?_, _,
        hp.trans (walk_of_ne_directory hplace hdirectory hlast links), by simp⟩
      exact hdirectory (Landing.node.inj (hparent.symm.trans e)).2
  · refine Or.inr ⟨fun dir e => hnot _ _ (hparent.symm.trans e), error, hp.trans hwalk, fun _ => ?_⟩
    rw [exists?, hparent]
    split
    · next place node hnode => exact absurd hnode (hnot place node)
    · rfl

/-- What cannot be looked at to make a directory of it is no directory. -/
theorem isDirectory_of_locate_make (hp : p.steps = p.names) (hr : ¬IsRefused p) {error : DiskError}
    (h : t.locate cwd .make p = .failed error) : t.isDirectory cwd p = false := by
  rw [locate_of_not_isRefused hr, if_pos rfl] at h
  have hfollow : t.locate cwd .follow p = .failed error := by
    rw [locate_of_not_isRefused hr, if_neg (by simp), hp, ← h]
    exact walk_follow _ _ _ (by simp [h, IsOfPurpose])
  rw [isDirectory, hfollow]

/-! ## All the way up -/

/-- The paths above an absolute path, up to the root. -/
inductive Ascent : Path → List Path → Prop
  | root : Ascent ⟨['/']⟩ []
  | step {name : Text} {p parent : Path} {above : List Path} (hp : GoesOn name parent p)
    (hparent : Ascent parent above) : Ascent p (parent :: above)

/-- All paths on the way up are absolute. -/
theorem Ascent.isAbsolute (h : Ascent p above) : ∀ q ∈ p :: above, q.isAbsolute = true := by
  induction h with
  | root =>
    intro q hq
    rw [List.mem_singleton.1 hq]
    rfl
  | @step name p parent above hp hparent ih =>
    have hstart : start [[]] p = [] := by
      rw [hp.start_eq, start, if_pos (ih parent List.mem_cons_self)]
    refine List.forall_mem_cons.2 ⟨?_, ih⟩
    by_cases habs : p.isAbsolute = true
    · exact habs
    · simp [start, habs] at hstart

theorem names_ofPieces {later : List Text} (hslash : ∀ piece ∈ later, '/' ∉ piece) :
    (Path.ofPieces [] later).names = later.filter (· != []) := by
  by_cases hlater : later = []
  · subst hlater
    rfl
  · rw [Path.names, Path.pieces_ofPieces (by simp [hlater]) (by simpa using hslash)]
    rfl

theorem not_isSkipped_of_dropWhile {pieces later : List Text} {piece : Text}
    (h : pieces.dropWhile Path.isSkipped = piece :: later) : ¬Path.isSkipped piece = true := by
  have hhead := List.head?_dropWhile_not Path.isSkipped pieces
  rw [h] at hhead
  simpa using hhead

theorem goesOn_ofPieces {rev : List Text} {piece : Text} (hpiece : ¬Path.isSkipped piece = true)
    (hall : ∀ other ∈ piece :: rev, '/' ∉ other ∧ other ≠ ['.', '.'])
    (hp : ¬IsRefused (Path.ofPieces [] (piece :: rev).reverse)) :
    GoesOn piece (Path.ofPieces [] (rev.dropWhile Path.isSkipped).reverse)
      (Path.ofPieces [] (piece :: rev).reverse) := by
  have hstay : ¬IsStay piece := fun e => hpiece (isStay_iff.1 e)
  have hslash : ∀ other ∈ (piece :: rev).reverse, '/' ∉ other := fun other hother =>
    (hall other (List.mem_reverse.1 hother)).1
  have hkept : ∀ other ∈ (rev.dropWhile Path.isSkipped).reverse, '/' ∉ other := fun other hother =>
    (hall other (List.mem_cons_of_mem _ ((List.dropWhile_sublist _).mem (List.mem_reverse.1 hother)))).1
  have hpieces : (Path.ofPieces [] (piece :: rev).reverse).pieces = [] :: (piece :: rev).reverse :=
    Path.pieces_ofPieces (by simp) (by simpa using hslash)
  -- The pieces up to the last name above, then those passed over, then the name.
  have hsplit : (piece :: rev).reverse = (rev.dropWhile Path.isSkipped).reverse ++
      ((rev.takeWhile Path.isSkipped).reverse ++ [piece]) := by
    rw [List.reverse_cons, ← List.append_assoc, ← List.reverse_append, List.takeWhile_append_dropWhile]
  have hprefix : [] :: (rev.dropWhile Path.isSkipped).reverse <+:
      (Path.ofPieces [] (piece :: rev).reverse).pieces := by
    rw [hpieces, hsplit]
    exact ⟨_, rfl⟩
  have hparent := not_isRefused_ofPieces hp hprefix
  refine ⟨⟨(rev.takeWhile Path.isSkipped).reverse.filter (· != []), fun dot hdot => ?_, ?_⟩, hstay,
    (hall piece List.mem_cons_self).2, fun cwd => (start_ofPieces hp hprefix cwd).symm, hp, hparent,
    (getLast?_steps ?_ hp).1, ?_⟩
  · have hskip := List.mem_reverse.1 (List.mem_filter.1 hdot).1
    exact isStay_iff.2 (List.all_eq_true.1 List.all_takeWhile dot hskip)
  · have hne : piece ≠ [] := fun e => hstay (Or.inl e)
    rw [names_ofPieces hslash, names_ofPieces hkept, hsplit, List.filter_append, List.filter_append]
    simp [hne]
  · have hne : piece ≠ [] := fun e => hstay (Or.inl e)
    rw [hpieces, List.reverse_cons, ← List.cons_append, List.getLast?_concat]
    simpa using hne
  · cases hdrop : rev.dropWhile Path.isSkipped with
    | nil => rfl
    | cons other above =>
      have hother := not_isSkipped_of_dropWhile hdrop
      rw [hdrop] at hkept hparent
      refine (getLast?_steps ?_ hparent).1
      rw [Path.pieces_ofPieces (by simp) (by simpa using hkept), List.reverse_cons,
        ← List.cons_append, List.getLast?_concat]
      simpa using fun e : other = [] => hother (isStay_iff.1 (Or.inl e))

/-- The paths above a path are its ascent: pieces that are passed over add nothing to it. -/
theorem ascent_above (rev : List Text) (hall : ∀ piece ∈ rev, '/' ∉ piece ∧ piece ≠ ['.', '.'])
    (hp : ¬IsRefused (Path.ofPieces [] (rev.dropWhile Path.isSkipped).reverse)) :
    Ascent (Path.ofPieces [] (rev.dropWhile Path.isSkipped).reverse) (Path.above true [] rev) := by
  induction rev with
  | nil => exact .root
  | cons piece rev ih =>
    have hrest : ∀ other ∈ rev, '/' ∉ other ∧ other ≠ ['.', '.'] := fun other hother =>
      hall other (List.mem_cons_of_mem _ hother)
    by_cases hpiece : Path.isSkipped piece = true
    · rw [List.dropWhile_cons, if_pos hpiece] at hp ⊢
      rw [Path.above, if_pos hpiece]
      exact ih hrest hp
    · rw [List.dropWhile_cons, if_neg hpiece] at hp ⊢
      have hgoes := goesOn_ofPieces hpiece hall hp
      rw [Path.above, if_neg hpiece]
      exact .step hgoes (ih hrest hgoes.not_isRefused_parent)

/-- **The way up.** The parent of an absolute path without two dots is the start of an ascent, if a
disk accepts it at all. -/
theorem ascent_of_parent? (habs : p.isAbsolute = true) (hdown : KeepsDown p)
    (hparent : p.parent? = some parent) (hr : ¬IsRefused parent) : Ascent parent parent.parents := by
  obtain ⟨rev, hpieces⟩ : ∃ rev, p.pieces = [] :: List.reverse rev := by
    obtain ⟨first, later, h⟩ := List.exists_cons_of_ne_nil p.pieces_ne_nil
    have hfirst := Path.head?_pieces_of_isAbsolute habs
    rw [h, List.head?_cons, Option.some.injEq] at hfirst
    exact ⟨later.reverse, by simp [h, hfirst]⟩
  have hall : ∀ piece ∈ rev, '/' ∉ piece ∧ piece ≠ ['.', '.'] := by
    intro piece hpiece
    have hmem : piece ∈ p.pieces := by simp [hpieces, hpiece]
    refine ⟨Path.slash_notMem_of_mem_pieces hmem, ?_⟩
    rintro rfl
    exact hdown (List.mem_filter.2 ⟨hmem, by simp⟩)
  have habove : p.parents = Path.above true [] rev := by
    rw [Path.parents, hpieces, habs]
    simp
  rw [Path.parent?, habove, ← Path.above_dropWhile] at hparent
  cases hdrop : rev.dropWhile Path.isSkipped with
  | nil => simp [hdrop, Path.above] at hparent
  | cons piece above =>
    have hpiece := not_isSkipped_of_dropWhile hdrop
    have hrest : ∀ other ∈ above, '/' ∉ other ∧ other ≠ ['.', '.'] := fun other hother =>
      hall other ((List.dropWhile_sublist Path.isSkipped).mem
        (hdrop ▸ List.mem_cons_of_mem piece hother))
    rw [hdrop, Path.above, if_neg hpiece, List.head?_cons, Option.some.injEq] at hparent
    rw [← hparent] at hr ⊢
    have hslash : ∀ other ∈ [] :: above, '/' ∉ other := by
      simpa using fun other hother => (hrest other hother).1
    rw [Path.parents_ofPieces hslash (iff_of_true rfl rfl)]
    exact ascent_above above hrest hr

end FileTree

end CrudScaffold
