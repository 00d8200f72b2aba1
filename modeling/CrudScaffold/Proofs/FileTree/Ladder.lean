import CrudScaffold.Proofs.FileTree.Descent
import CrudScaffold.Proofs.FileTree.Disk

set_option autoImplicit false

/-! # Directories on the way down

On a tree without links the paths above a path lead, rung by rung, to the places above its place
(`FileTree.Descends.exists_ladder`). So making directories along them makes directories of just those
places, unless a file is in the way (`FileTree.run_makeDirectories_of_ladder`). -/

namespace CrudScaffold

namespace FileTree

variable {t t' t'' : FileTree} {cwd dir place : Place} {name : Text} {p : Path}
  {paths : List Path} {first : Text} {init : List Text}

/-! ## Ladders -/

/-- Paths, each the parent of the one before it, that lead to a place and to what is above it, down
to where walks start. -/
inductive Ladder (cwd : Place) : List Path → Place → Prop
  /-- The empty path stands for the current directory. -/
  | here (paths : List Path) : Ladder cwd (Path.empty :: paths) cwd
  | foot {p : Path} {paths : List Path} (hp : ¬IsRefused p) (hstay : ∀ piece ∈ p.pieces, IsStay piece) :
    Ladder cwd (p :: paths) (start cwd p)
  | rung {p : Path} {paths : List Path} {name : Text} {dir : Place} (hp : Descends p)
    (hplace : placeOf cwd p = name :: dir) (hparents : Ladder cwd paths dir) :
    Ladder cwd (p :: paths) (name :: dir)

/-- A path that is not refused is not refused up to any of its pieces either. -/
theorem not_isRefused_ofPieces (hp : ¬IsRefused p) (h : first :: init <+: p.pieces) :
    ¬IsRefused (Path.ofPieces first init) := by
  simp only [IsRefused, not_or] at hp
  obtain ⟨rest, hrest⟩ := Path.text_ofPieces_prefix h hp.2.1
  rintro (hnul | hempty | hlong)
  · exact hp.1 (hrest ▸ List.mem_append_left _ hnul)
  · exact Path.text_ofPieces_ne_nil first init hempty
  · refine hp.2.2 (hrest ▸ ?_)
    rw [Text.byteSize_append]
    omega

theorem start_ofPieces (hp : ¬IsRefused p) (h : first :: init <+: p.pieces) (cwd : Place) :
    start cwd (Path.ofPieces first init) = start cwd p := by
  have hslash : ∀ piece ∈ first :: init, '/' ∉ piece := fun piece hpiece =>
    Path.slash_notMem_of_mem_pieces (h.subset hpiece)
  have hhead : p.pieces.head? = some first := by
    obtain ⟨after, hpieces⟩ := h
    rw [← hpieces]
    rfl
  have hsame : (Path.ofPieces first init).isAbsolute = p.isAbsolute := by
    rw [Bool.eq_iff_iff, Path.isAbsolute_ofPieces hslash, Path.isAbsolute_iff, hhead]
    simp [text_ne_nil hp]
  rw [start, start, hsame]

/-- What is cut from a path after a piece that goes down leads down. -/
theorem descends_ofPieces (hp : ¬IsRefused p) (h : first :: init <+: p.pieces)
    (hdown : EndsDown (first :: init)) (cwd : Place) :
    Descends (Path.ofPieces first init) ∧
      placeOf cwd (Path.ofPieces first init) = downFrom (start cwd p) (first :: init) := by
  have hslash : ∀ piece ∈ first :: init, '/' ∉ piece := fun piece hpiece =>
    Path.slash_notMem_of_mem_pieces (h.subset hpiece)
  have hroot : ¬(first = [] ∧ init = []) := by
    rintro ⟨rfl, rfl⟩
    exact hdown.ne_slash rfl
  have hcut := Path.pieces_ofPieces hroot hslash
  exact ⟨⟨not_isRefused_ofPieces hp h, hcut ▸ hdown⟩, by rw [placeOf, start_ofPieces hp h, hcut]⟩

/-- A path that begins by going down starts at the current directory, with nothing else above it. -/
theorem start_of_goesDown (hdown : GoesDown first) (h : [first] <+: p.pieces) (cwd : Place) :
    start cwd p = cwd ∧ Path.above p.isAbsolute first [] = [Path.empty] := by
  have hne := hdown.ne_nil
  have hrelative : p.isAbsolute = false := by
    obtain ⟨after, hpieces⟩ := h
    rw [← Bool.not_eq_true, Path.isAbsolute_iff, ← hpieces]
    simp [hne]
  simp [start, Path.above, hrelative, hne]

theorem ladder_first (hp : ¬IsRefused p) (hfirst : IsStay first ∨ GoesDown first) (cwd : Place)
    (h : [first] <+: p.pieces) :
    Ladder cwd (Path.ofPieces first [] :: Path.above p.isAbsolute first [])
      (downFrom (start cwd p) [first]) := by
  rcases hfirst with hstay | hdown
  · have hfoot : ∀ piece ∈ (Path.ofPieces first []).pieces, IsStay piece := by
      rcases hstay with rfl | rfl
      · rw [Path.ofPieces_nil]
        simp [Path.pieces, Text.splitOn, IsStay]
      · rw [Path.pieces_ofPieces (by simp) (by simp)]
        simp [IsStay]
    rw [downFrom_cons_of_isStay hstay, ← start_ofPieces hp h]
    exact .foot (not_isRefused_ofPieces hp h) hfoot
  · obtain ⟨hstart, habove⟩ := start_of_goesDown hdown h cwd
    obtain ⟨hdescends, hplace⟩ := descends_ofPieces hp h (.last hdown) cwd
    rw [downFrom_cons_of_not_isStay hdown.not_isStay, hstart] at hplace ⊢
    rw [habove]
    exact .rung hdescends hplace (.here [])

/-- The paths above a path are a ladder: pieces that stay add no rung. -/
theorem ladder_above (hp : ¬IsRefused p)
    (hpieces : ∀ piece ∈ p.pieces, IsStay piece ∨ GoesDown piece) (cwd : Place) (rev : List Text)
    (h : first :: rev.reverse <+: p.pieces) :
    Ladder cwd (Path.ofPieces first (rev.dropWhile Path.isSkipped).reverse ::
      Path.above p.isAbsolute first rev) (downFrom (start cwd p) (first :: rev.reverse)) := by
  -- The later pieces are taken from the last one on, as the paths above a path are found.
  induction rev with
  | nil => exact ladder_first hp (hpieces first (h.subset List.mem_cons_self)) cwd h
  | cons piece rev ih =>
    rw [List.reverse_cons] at h ⊢
    have hbelow := ih ((List.prefix_append (first :: rev.reverse) [piece]).trans h)
    have hall : ∀ other ∈ first :: (rev.reverse ++ [piece]), IsStay other ∨ GoesDown other :=
      fun other hother => hpieces other (h.subset hother)
    rcases hall piece (by simp) with hstay | hdown
    · have hskip := isStay_iff.1 hstay
      rw [List.dropWhile_cons, if_pos hskip, Path.above, if_pos hskip,
        ← List.cons_append, downFrom_concat_of_isStay hstay]
      exact hbelow
    · have hskip := hdown.not_isSkipped
      have hends : EndsDown (first :: rev.reverse ++ [piece]) := endsDown_append
        (fun other hother => hall other (List.mem_append_left [piece] hother)) (.last hdown)
      obtain ⟨hdescends, hplace⟩ := descends_ofPieces hp h hends cwd
      rw [← List.cons_append, downFrom_concat_of_not_isStay hdown.not_isStay] at hplace
      rw [List.dropWhile_cons, if_neg hskip, List.reverse_cons, Path.above, if_neg hskip,
        ← List.cons_append, downFrom_concat_of_not_isStay hdown.not_isStay]
      exact .rung hdescends hplace hbelow

/-- **The way to a path.** The directory of a path that leads down is the top of a ladder. -/
theorem Descends.exists_ladder (hp : Descends p) (cwd : Place) :
    ∃ name place parent, placeOf cwd p = name :: place ∧ p.parent? = some parent ∧
      Ladder cwd parent.ancestors place := by
  obtain ⟨hpieces, last, hlast, hdown⟩ := endsDown_iff.1 hp.endsDown
  obtain ⟨first, rev, hcut⟩ : ∃ first rev, p.pieces = first :: List.reverse rev := by
    obtain ⟨first, later, h⟩ := List.exists_cons_of_ne_nil p.pieces_ne_nil
    exact ⟨first, later.reverse, by simpa using h⟩
  have hparents : p.parents = Path.above p.isAbsolute first rev := by
    rw [Path.parents, hcut]
    simp
  rw [hcut] at hlast
  rw [placeOf, hcut, Path.parent?, hparents]
  cases rev with
  | nil =>
    obtain rfl : first = last := by simpa using hlast
    obtain ⟨hstart, habove⟩ := start_of_goesDown hdown ⟨[], hcut.symm⟩ cwd
    refine ⟨first, cwd, Path.empty, ?_, by rw [habove]; rfl, .here _⟩
    rw [List.reverse_nil, downFrom_cons_of_not_isStay hdown.not_isStay, hstart]
    rfl
  | cons piece rev =>
    obtain rfl : piece = last := by simpa [List.getLast?_cons] using hlast
    have hskip := hdown.not_isSkipped
    have hbegins : first :: rev.reverse <+: p.pieces := ⟨[piece], by simp [hcut]⟩
    have hslash : ∀ other ∈ first :: rev, '/' ∉ other := fun other hother =>
      Path.slash_notMem_of_mem_pieces (hbegins.subset (by simpa using hother))
    have habs : p.isAbsolute = true ↔ first = [] := by
      simp [Path.isAbsolute_iff, hcut, text_ne_nil hp.not_isRefused]
    refine ⟨piece, downFrom (start cwd p) (first :: rev.reverse), _, ?_,
      by rw [Path.above, if_neg hskip]; rfl, ?_⟩
    · rw [List.reverse_cons, ← List.cons_append, downFrom_concat_of_not_isStay hdown.not_isStay]
    · rw [Path.ancestors, Path.parents_ofPieces hslash habs]
      exact ladder_above hp.not_isRefused hpieces cwd rev hbegins

/-! ## Making directories along a ladder -/

theorem node?_of_suffix (hdir : t.node? dir = some .directory) (h : place <:+ dir) :
    t.node? place = some .directory := by
  induction dir with
  | nil => rw [List.suffix_nil.1 h, node?_root]
  | cons name dir ih =>
    rcases List.suffix_cons_iff.1 h with rfl | h
    · exact hdir
    · exact ih (node?_parent hdir) h

/-- Whether no file stands at a place or above it. -/
def Clear (t : FileTree) (place : Place) : Prop :=
  ∀ above, above <:+ place → ∀ content, t.node? above ≠ some (.file content)

/-- A tree with some places made directories and everything else as it was. -/
structure Made (places : Place → Prop) (t t' : FileTree) : Prop where
  directory : ∀ place, places place → t'.node? place = some .directory
  other : ∀ place, ¬places place → t'.node? place = t.node? place

variable {places places' : Place → Prop}

theorem Made.node?_of_directory (h : Made places t t') (hdir : t.node? place = some .directory) :
    t'.node? place = some .directory := by
  by_cases hp : places place
  · exact h.directory place hp
  · rw [h.other place hp, hdir]

theorem Made.linkFree (h : Made places t t') (hfree : t.LinkFree) : t'.LinkFree := by
  intro place target
  by_cases hp : places place
  · simp [h.directory place hp]
  · rw [h.other place hp]
    exact hfree place target

theorem Made.clear (h : Made places t t') (hclear : t.Clear place) : t'.Clear place := by
  intro above habove content
  by_cases hp : places above
  · simp [h.directory above hp]
  · rw [h.other above hp]
    exact hclear above habove content

theorem Made.trans (h : Made places t t') (h' : Made places' t' t'') :
    Made (fun place => places place ∨ places' place) t t'' where
  directory place hp := by
    by_cases hp' : places' place
    · exact h'.directory place hp'
    · rw [h'.other place hp', h.directory place (hp.resolve_right hp')]
  other place hp := by
    rw [not_or] at hp
    rw [h'.other place hp.2, h.other place hp.1]

theorem made_refl (hdir : t.node? dir = some .directory) : Made (· <:+ dir) t t :=
  ⟨fun _ hp => node?_of_suffix hdir hp, fun _ _ => rfl⟩

/-- A walk straight down past directories only finds what it goes to or the first thing missing. -/
theorem descend_of_clear (hfree : t.LinkFree) (hclear : t.Clear (name :: dir)) :
    (t.node? (name :: dir) = some .directory ∧
      t.descend (name :: dir) = .node (name :: dir) .directory) ∨
    (t.node? dir = some .directory ∧ t.node? (name :: dir) = none ∧
      t.descend (name :: dir) = .vacant name dir) ∨
    (t.node? (name :: dir) = none ∧ t.descend (name :: dir) = .failed .notFound) := by
  have hdirectory : ∀ {above node}, above <:+ name :: dir → t.node? above = some node →
      node = .directory := by
    intro above node habove hnode
    cases node with
    | directory => rfl
    | file content => exact absurd hnode (hclear above habove content)
    | link target => exact absurd hnode (hfree above target)
  rcases descend_cases t (name :: dir) with ⟨node, hnode, hd⟩ | ⟨_, _, hplace, hdir, hnone, hd⟩ |
    ⟨_, dir', _, hplace, hnone, hd, ⟨rfl, -⟩ | ⟨above, node, habove, hnode, hne⟩⟩
  · obtain rfl := hdirectory (List.suffix_refl _) hnode
    exact Or.inl ⟨hnode, hd⟩
  · obtain ⟨rfl, rfl⟩ := List.cons.inj hplace
    exact Or.inr (Or.inl ⟨hdir, hnone, hd⟩)
  · exact Or.inr (Or.inr ⟨hnone, hd⟩)
  · obtain ⟨rfl, rfl⟩ := List.cons.inj hplace
    exact absurd (hdirectory (habove.trans (List.suffix_cons name dir)) hnode) hne

theorem ne_empty_of_not_isRefused (hp : ¬IsRefused p) : p ≠ Path.empty :=
  fun e => text_ne_nil hp (e ▸ rfl)

/-- Where there is a directory already, none is made. -/
theorem run_makeDirectories_of_directory (hne : p ≠ Path.empty)
    (h : ∀ purpose, t.locate cwd purpose p = .node place .directory) (parents : List Path) :
    ((FileTree.disk cwd).makeDirectories (p :: parents)).run t = (none, t) := by
  have hmake : t.makeDirectory cwd p = .error .alreadyExists := by rw [makeDirectory, h]
  have hthere : t.isDirectory cwd p = true := by rw [isDirectory, h]
  rw [Disk.makeDirectories, if_neg hne, run_bind, run_makeDirectory_of_error hmake]
  simp only [Disk.orExisting, run_bind, run_isDirectory, hthere, if_true]
  rfl

theorem run_makeDirectories_of_vacant (hne : p ≠ Path.empty)
    (h : t.locate cwd .make p = .vacant name dir) (parents : List Path) :
    ((FileTree.disk cwd).makeDirectories (p :: parents)).run t =
      (none, t.put name dir .directory) := by
  have hmake : t.makeDirectory cwd p = .ok (t.put name dir .directory) := by rw [makeDirectory, h]
  rw [Disk.makeDirectories, if_neg hne, run_bind, run_makeDirectory_of_ok hmake]
  rfl

/-- Where the parent is missing, it is made first. -/
theorem run_makeDirectories_of_notFound (hne : p ≠ Path.empty)
    (h : t.locate cwd .make p = .failed .notFound) {parents : List Path}
    (hparents : ((FileTree.disk cwd).makeDirectories parents).run t = (none, t'))
    (h' : t'.locate cwd .make p = .vacant name dir) :
    ((FileTree.disk cwd).makeDirectories (p :: parents)).run t =
      (none, t'.put name dir .directory) := by
  have hmake : t.makeDirectory cwd p = .error .notFound := by rw [makeDirectory, h]
  have hmake' : t'.makeDirectory cwd p = .ok (t'.put name dir .directory) := by rw [makeDirectory, h']
  rw [Disk.makeDirectories, if_neg hne, run_bind, run_makeDirectory_of_error hmake]
  simp only [run_bind, hparents, run_makeDirectory_of_ok hmake']
  rfl

theorem made_put (hdir : t.node? dir = some .directory) (hnone : t.node? (name :: dir) = none) :
    Made (· <:+ name :: dir) t (t.put name dir .directory) := by
  have hput := fun place => node?_put t name dir place .directory hdir (by simp [hnone])
  refine ⟨fun place hp => ?_, fun place hp => ?_⟩
  · rw [hput]
    split
    · rfl
    · next hne => exact node?_of_suffix hdir ((List.suffix_cons_iff.1 hp).resolve_left hne)
  · rw [hput, if_neg fun e : place = name :: dir => hp (e ▸ List.suffix_refl _)]

/-- What is above a place is made before the place itself. -/
theorem Made.then_put (h : Made (· <:+ dir) t t') (hdir : t'.node? dir = some .directory)
    (hnone : t'.node? (name :: dir) = none) :
    Made (· <:+ name :: dir) t (t'.put name dir .directory) := by
  have hput := made_put hdir hnone
  refine ⟨hput.directory, fun place hp => ?_⟩
  rw [hput.other place hp, h.other place fun habove => hp (habove.trans (List.suffix_cons name dir))]

/-- **Making directories along a ladder.** If no file is in the way, the place at its top and all
above it are directories afterwards, and nothing else changes. -/
theorem run_makeDirectories_of_ladder (hcwd : t.node? cwd = some .directory) (hfree : t.LinkFree)
    (h : Ladder cwd paths place) (hclear : t.Clear place) :
    ∃ t', ((FileTree.disk cwd).makeDirectories paths).run t = (none, t') ∧
      Made (· <:+ place) t t' := by
  induction h with
  | here paths => exact ⟨t, by rw [Disk.makeDirectories, if_pos rfl]; rfl, made_refl hcwd⟩
  | @foot p paths hp hstay =>
    exact ⟨t, run_makeDirectories_of_directory (ne_empty_of_not_isRefused hp)
      (locate_of_isStay hcwd hp hstay) paths, made_refl (node?_start hcwd p)⟩
  | @rung p paths name dir hp hplace hparents ih =>
    have hne := ne_empty_of_not_isRefused hp.not_isRefused
    have hlocate := fun purpose => hplace ▸ locate_eq_descend hfree hcwd hp purpose
    rcases descend_of_clear hfree hclear with ⟨hnode, hd⟩ | ⟨hdir, hnone, hd⟩ | ⟨hnone, hd⟩
    · exact ⟨t, run_makeDirectories_of_directory hne (fun purpose => (hlocate purpose).trans hd) paths,
        made_refl hnode⟩
    · exact ⟨_, run_makeDirectories_of_vacant hne ((hlocate .make).trans hd) paths,
        made_put hdir hnone⟩
    · -- The parent is made first, and what was missing under it still is.
      obtain ⟨t₁, hrun, hmade⟩ := ih fun above habove =>
        hclear above (habove.trans (List.suffix_cons name dir))
      have hself : ¬name :: dir <:+ dir := fun h => absurd h.length_le (by simp)
      have hdir := hmade.directory dir (List.suffix_refl dir)
      have hnone' := (hmade.other _ hself).trans hnone
      have hlocate' := locate_eq_descend (hmade.linkFree hfree) (hmade.node?_of_directory hcwd) hp .make
      rw [hplace, descend_eq_vacant (descend_of_node? hdir) hnone'] at hlocate'
      exact ⟨_, run_makeDirectories_of_notFound hne ((hlocate .make).trans hd) hrun hlocate',
        hmade.then_put hdir hnone'⟩

end FileTree

end CrudScaffold
