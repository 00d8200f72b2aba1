import CrudScaffold.Path

set_option autoImplicit false

/-! # Paths and their parts

The components of a path are its lead and its moves, the pieces that are neither empty nor a dot
(`Path.components_eq`), and those of a joined path are put together from those of its parts
(`Path.components_join`). -/

namespace CrudScaffold

/-! ## Pieces of a text -/

namespace Text

theorem intercalate_append (sep : Char) {s t : List Text} (hs : s ≠ []) (ht : t ≠ []) :
    [sep].intercalate (s ++ t) = [sep].intercalate s ++ sep :: [sep].intercalate t := by
  obtain ⟨next, later, rfl⟩ := List.exists_cons_of_ne_nil ht
  induction s with
  | nil => exact absurd rfl hs
  | cons piece s ih =>
    cases s with
    | nil => simp [List.intercalate, List.intersperse]
    | cons second s =>
      have hrest := ih (by simp)
      simp only [List.intercalate, List.cons_append, List.intersperse, List.flatten_cons] at hrest ⊢
      rw [hrest]
      simp

/-- Cutting is the inverse of joining as long as no piece holds the separator. -/
theorem splitOn_intercalate (sep : Char) (first : Text) (later : List Text) (hfirst : sep ∉ first)
    (hlater : ∀ piece ∈ later, sep ∉ piece) :
    splitOn sep ([sep].intercalate (first :: later)) = first :: later := by
  induction later generalizing first with
  | nil => simpa [List.intercalate] using splitOn_of_notMem sep first hfirst
  | cons second later ih =>
    have hjoin : [sep].intercalate (first :: second :: later) =
        first ++ sep :: [sep].intercalate (second :: later) := by
      simp [List.intercalate, List.intersperse]
    rw [hjoin, splitOn_append, splitOn_of_notMem sep first hfirst,
      ih second (hlater second List.mem_cons_self)
        fun piece hpiece => hlater piece (List.mem_cons_of_mem _ hpiece)]
    rfl

/-- A text without the separator belongs to the first piece of what follows it. -/
theorem splitOn_append_of_notMem (sep : Char) (s t : Text) (h : sep ∉ s) :
    splitOn sep (s ++ t) = (s ++ (splitOn sep t).headD []) :: (splitOn sep t).tail := by
  induction s with
  | nil =>
    cases ht : splitOn sep t with
    | nil => exact absurd ht (splitOn_ne_nil sep t)
    | cons piece pieces => simp [ht]
  | cons c s ih =>
    simp only [List.mem_cons, not_or] at h
    rw [List.cons_append, splitOn, if_neg (fun e => h.1 e.symm), ih h.2]
    rfl

end Text

theorem Component.ofPiece_inj {a b : Text} (h : ofPiece a = ofPiece b) : a = b := by
  simp only [ofPiece] at h
  split at h <;> split at h <;> simp_all

theorem Component.ofPiece_eq_name {piece : Text} (h : 3 ≤ piece.length) : ofPiece piece = .name piece := by
  refine if_neg ?_
  rintro rfl
  simp at h

namespace Path

variable {a b p : Path}

/-! ## Lead and moves -/

/-- What the components of a path begin with before it goes anywhere: the root, or a dot. -/
def lead (p : Path) : List Component :=
  if p.isAbsolute then [.root] else if p.pieces.head? = some ['.'] then [.here] else []

/-- The pieces of a path that go somewhere: those that are neither empty nor a dot. -/
def moves (p : Path) : List Text := p.pieces.filter fun piece => !isSkipped piece

theorem isSkipped_of_two_le_length {piece : Text} (h : 2 ≤ piece.length) :
    isSkipped piece = false := by
  match piece, h with
  | first :: second :: later, _ => simp [isSkipped]

theorem pieces_ne_nil (p : Path) : p.pieces ≠ [] := Text.splitOn_ne_nil '/' p.text

theorem intercalate_pieces (p : Path) : ['/'].intercalate p.pieces = p.text :=
  Text.intercalate_splitOn '/' p.text

theorem slash_notMem_of_mem_pieces {piece : Text} (h : piece ∈ p.pieces) : '/' ∉ piece :=
  Text.notMem_of_mem_splitOn '/' p.text piece h

theorem head?_pieces_of_isAbsolute (h : p.isAbsolute = true) : p.pieces.head? = some [] := by
  obtain ⟨text⟩ := p
  cases text with
  | nil => simp [isAbsolute] at h
  | cons c text =>
    obtain rfl : c = '/' := by simpa [isAbsolute] using h
    simp [pieces, Text.splitOn]

theorem isAbsolute_of_lead_eq_nil (h : p.lead = []) : p.isAbsolute = false := by
  cases habs : p.isAbsolute with
  | false => rfl
  | true => simp [lead, habs] at h

theorem components_eq (p : Path) : p.components = p.lead ++ p.moves.map Component.ofPiece := by
  rw [components, firstComponent?, lead, moves]
  cases hp : p.pieces with
  | nil => exact absurd hp p.pieces_ne_nil
  | cons first later =>
    by_cases habs : p.isAbsolute = true
    · have hfirst : first = [] := by simpa [hp] using head?_pieces_of_isAbsolute habs
      simp [habs, hfirst, isSkipped]
    · by_cases hempty : first = []
      · simp [habs, hempty, isSkipped]
      · by_cases hdot : first = ['.']
        · simp [habs, hdot, isSkipped]
        · simp [habs, hempty, hdot, isSkipped]

theorem up_mem_components : Component.up ∈ p.components ↔ ['.', '.'] ∈ p.moves := by
  have hlead : Component.up ∉ p.lead := by
    rw [lead]
    split
    · simp
    · split <;> simp
  rw [components_eq, List.mem_append, or_iff_right hlead, List.mem_map]
  constructor
  · rintro ⟨piece, hpiece, hup⟩
    rw [Component.ofPiece] at hup
    split at hup
    · next e => exact e ▸ hpiece
    · simp at hup
  · exact fun h => ⟨_, h, if_pos rfl⟩

/-! ## Joining -/

theorem join_of_text_eq_nil (ha : a.text = []) (b : Path) : a.join b = b := by
  rw [join]
  split
  · rfl
  · rw [if_pos (Or.inl ha), ha]
    rfl

/-- The pieces of a joined path are those of its parts, up to an empty one at the end of the first. -/
theorem exists_pieces_join (hb : b.isAbsolute = false) (ha : a.text ≠ []) :
    ∃ start, start ≠ [] ∧ (a.pieces = start ∨ a.pieces = start ++ [[]]) ∧
      (a.join b).pieces = start ++ b.pieces := by
  by_cases hend : a.text.getLast? = some '/'
  · obtain ⟨text, htext⟩ := List.getLast?_eq_some_iff.1 hend
    refine ⟨Text.splitOn '/' text, Text.splitOn_ne_nil '/' text, Or.inr ?_, ?_⟩
    · rw [pieces, htext, Text.splitOn_append]
      rfl
    · rw [join, if_neg (by simp [hb]), if_pos (Or.inr hend), pieces, htext, List.append_assoc]
      exact Text.splitOn_append '/' text b.text
  · exact ⟨a.pieces, a.pieces_ne_nil, Or.inl rfl, pieces_join a b hb ha hend⟩

theorem moves_join (hb : b.isAbsolute = false) : (a.join b).moves = a.moves ++ b.moves := by
  by_cases ha : a.text = []
  · have hnone : a.moves = [] := by rw [moves, pieces, ha]; rfl
    rw [join_of_text_eq_nil ha, hnone, List.nil_append]
  · obtain ⟨start, -, ha' | ha', hpieces⟩ := exists_pieces_join hb ha
    · rw [moves, moves, moves, hpieces, ha', List.filter_append]
    · rw [moves, moves, moves, hpieces, ha', List.filter_append, List.filter_append]
      simp [isSkipped]

theorem isAbsolute_join (hb : b.isAbsolute = false) (ha : a.text ≠ []) :
    (a.join b).isAbsolute = a.isAbsolute := by
  obtain ⟨text⟩ := a
  cases text with
  | nil => exact absurd rfl ha
  | cons c text =>
    rw [join, if_neg (by simp [hb])]
    split <;> simp [isAbsolute]

/-- A part without a lead adds its moves only. -/
theorem components_join (hb : b.lead = []) :
    (a.join b).components = a.components ++ b.moves.map Component.ofPiece := by
  have hrel := isAbsolute_of_lead_eq_nil hb
  have hlead : (a.join b).lead = a.lead := by
    by_cases ha : a.text = []
    · rw [join_of_text_eq_nil ha, hb]
      simp [lead, isAbsolute, pieces, ha, Text.splitOn]
    · obtain ⟨start, hstart, ha', hpieces⟩ := exists_pieces_join hrel ha
      have hhead : (a.join b).pieces.head? = a.pieces.head? := by
        obtain ⟨first, later, rfl⟩ := List.exists_cons_of_ne_nil hstart
        rcases ha' with ha' | ha' <;> simp [hpieces, ha']
      rw [lead, lead, isAbsolute_join hrel ha, hhead]
  rw [components_eq, components_eq, hlead, moves_join hrel, List.map_append, List.append_assoc]

/-- What stands between a path and a part that is joined to it. -/
def gap (a : Path) : Text := if a.text = [] ∨ a.text.getLast? = some '/' then [] else ['/']

theorem text_join (hb : b.isAbsolute = false) : (a.join b).text = a.text ++ (a.gap ++ b.text) := by
  rw [join, if_neg (by simp [hb]), gap]
  split <;> rfl

theorem gap_join (hb : b.isAbsolute = false) : (a.join b).gap = b.gap := by
  rw [gap, text_join hb]
  by_cases hempty : b.text = []
  · -- What is joined then ends where the first part does, or in the slash after it.
    simp only [hempty, List.append_nil, gap]
    split <;> simp_all
  · simp [gap, hempty, List.getLast?_append]

theorem join_assoc (a b c : Path) (hc : c.isAbsolute = false) :
    a.join (b.join c) = (a.join b).join c := by
  by_cases hb : b.isAbsolute = true
  · have hne : b.text ≠ [] := by
      rintro he
      simp [isAbsolute, he] at hb
    rw [join_of_isAbsolute a b hb, join_of_isAbsolute a _ ((isAbsolute_join hc hne).trans hb)]
  · have hb : b.isAbsolute = false := by simpa using hb
    have hbc : (b.join c).isAbsolute = false := by
      by_cases hne : b.text = []
      · rwa [join_of_text_eq_nil hne]
      · rwa [isAbsolute_join hc hne]
    have htext : (a.join (b.join c)).text = ((a.join b).join c).text := by
      rw [text_join hbc, text_join hc, text_join hc, gap_join hb, text_join hb]
      simp
    exact congrArg Path.mk htext

/-! ## Above a path -/

theorem isAbsolute_iff : p.isAbsolute = true ↔ p.text ≠ [] ∧ p.pieces.head? = some [] := by
  refine ⟨fun h => ⟨?_, head?_pieces_of_isAbsolute h⟩, ?_⟩
  · intro hempty
    simp [isAbsolute, hempty] at h
  · rintro ⟨hne, hhead⟩
    obtain ⟨c, text, htext⟩ := List.exists_cons_of_ne_nil hne
    rw [pieces, htext, Text.splitOn] at hhead
    split at hhead
    · next hc => simp [isAbsolute, htext, hc]
    · split at hhead <;> simp at hhead

section OfPieces

variable {first : Text} {later : List Text}

theorem ofPieces_nil : ofPieces [] [] = ⟨['/']⟩ := if_pos ⟨rfl, rfl⟩

theorem text_ofPieces (h : ¬(first = [] ∧ later = [])) :
    (ofPieces first later).text = ['/'].intercalate (first :: later) := by
  rw [ofPieces, if_neg h]

theorem pieces_ofPieces (h : ¬(first = [] ∧ later = []))
    (hslash : ∀ piece ∈ first :: later, '/' ∉ piece) :
    (ofPieces first later).pieces = first :: later := by
  rw [pieces, text_ofPieces h]
  exact Text.splitOn_intercalate '/' first later (hslash first List.mem_cons_self)
    fun piece hpiece => hslash piece (List.mem_cons_of_mem _ hpiece)

theorem text_ofPieces_ne_nil (first : Text) (later : List Text) : (ofPieces first later).text ≠ [] := by
  by_cases h : first = [] ∧ later = []
  · simp [ofPieces, h]
  · rw [text_ofPieces h]
    cases later with
    | nil => simpa [List.intercalate] using h
    | cons piece later => simp [List.intercalate, List.intersperse]

theorem isAbsolute_ofPieces (hslash : ∀ piece ∈ first :: later, '/' ∉ piece) :
    (ofPieces first later).isAbsolute = true ↔ first = [] := by
  by_cases h : first = [] ∧ later = []
  · obtain ⟨rfl, rfl⟩ := h
    simp [ofPieces_nil, isAbsolute]
  · rw [isAbsolute_iff, pieces_ofPieces h hslash]
    simp [text_ofPieces_ne_nil]

/-- A path is above another one as a text, too. -/
theorem text_ofPieces_prefix (h : first :: later <+: p.pieces) (hne : p.text ≠ []) :
    (ofPieces first later).text <+: p.text := by
  obtain ⟨after, hpieces⟩ := h
  have htext := p.intercalate_pieces
  rw [← hpieces] at htext
  by_cases hroot : first = [] ∧ later = []
  · obtain ⟨rfl, rfl⟩ := hroot
    obtain ⟨text, hslash⟩ : ∃ text, p.text = '/' :: text := by
      have habs := isAbsolute_iff.2 ⟨hne, by rw [← hpieces]; rfl⟩
      obtain ⟨c, text, hcons⟩ := List.exists_cons_of_ne_nil hne
      exact ⟨text, by simpa [isAbsolute, hcons] using habs⟩
    rw [ofPieces_nil, hslash]
    exact ⟨text, rfl⟩
  · rw [text_ofPieces hroot, ← htext]
    by_cases hafter : after = []
    · simp [hafter]
    · rw [Text.intercalate_append '/' (by simp) hafter]
      exact List.prefix_append _ _

theorem above_dropWhile (isAbsolute : Bool) (first : Text) (rev : List Text) :
    above isAbsolute first (rev.dropWhile isSkipped) = above isAbsolute first rev := by
  induction rev with
  | nil => rfl
  | cons piece rev ih =>
    rw [List.dropWhile_cons]
    split
    · next h => rw [ih, above, if_pos h]
    · rfl

/-- What is above a path is above what is cut from it, too. -/
theorem parents_ofPieces {isAbsolute : Bool} {rev : List Text}
    (hslash : ∀ piece ∈ first :: rev, '/' ∉ piece) (habs : isAbsolute = true ↔ first = []) :
    (ofPieces first (rev.dropWhile isSkipped).reverse).parents = above isAbsolute first rev := by
  have hkept : ∀ piece ∈ first :: (rev.dropWhile isSkipped).reverse, '/' ∉ piece := by
    intro piece hpiece
    refine hslash piece (List.mem_cons.2 ((List.mem_cons.1 hpiece).imp_right fun h => ?_))
    exact (List.dropWhile_sublist isSkipped).mem (List.mem_reverse.1 h)
  rw [← above_dropWhile]
  by_cases h : first = [] ∧ (rev.dropWhile isSkipped).reverse = []
  · obtain ⟨rfl, hnil⟩ := h
    rw [hnil, List.reverse_eq_nil_iff.1 hnil, habs.2 rfl]
    rfl
  · have hsame : (ofPieces first (rev.dropWhile isSkipped).reverse).isAbsolute = isAbsolute :=
      Bool.eq_iff_iff.2 ((isAbsolute_ofPieces hkept).trans habs.symm)
    rw [parents, pieces_ofPieces h hkept, hsame]
    simp

theorem text_ne_nil_of_mem_above {rev : List Text} (h : p ∈ above true first rev) : p.text ≠ [] := by
  induction rev with
  | nil => simp [above] at h
  | cons piece rev ih =>
    rw [above] at h
    split at h
    · exact ih h
    · rcases List.mem_cons.1 h with rfl | h
      · exact text_ofPieces_ne_nil _ _
      · exact ih h

/-- Only above a relative path stands the empty one. -/
theorem text_ne_nil_of_parent? (habs : p.isAbsolute = true) (h : p.parent? = some a) :
    a.text ≠ [] := by
  have hmem : a ∈ p.parents := List.mem_of_mem_head? (Option.mem_def.2 h)
  rw [parents, habs] at hmem
  exact text_ne_nil_of_mem_above hmem

end OfPieces

/-! ## Below a path -/

section DropPieces

variable {count : Nat} {pieces rest : List Text}

theorem dropPieces_sublist (count : Nat) (pieces : List Text) :
    (dropPieces count pieces).Sublist pieces := by
  fun_induction dropPieces count pieces with
  | case1 => exact List.nil_sublist _
  | case2 _ _ _ _ ih => exact ih.cons _
  | case3 => exact List.Sublist.refl _
  | case4 _ _ _ _ ih => exact ih.cons _

theorem filter_dropPieces (count : Nat) (pieces : List Text) :
    (dropPieces count pieces).filter (fun piece => !isSkipped piece) =
      (pieces.filter fun piece => !isSkipped piece).drop count := by
  fun_induction dropPieces count pieces with
  | case1 => simp
  | case2 _ _ _ h ih => simp [h, ih]
  | case3 => simp
  | case4 _ _ h _ ih => simp [h, ih]

theorem not_isSkipped_of_dropPieces {piece : Text} (h : dropPieces count pieces = piece :: rest) :
    ¬isSkipped piece = true := by
  fun_induction dropPieces count pieces with
  | case1 => simp at h
  | case2 _ _ _ _ ih => exact ih h
  | case3 _ _ hpiece => exact (List.cons.inj h).1 ▸ hpiece
  | case4 _ _ _ _ ih => exact ih h

/-- The text of the pieces that are left is a relative path with the moves that are left. -/
theorem moves_dropPieces (count : Nat) (hslash : ∀ piece ∈ pieces, '/' ∉ piece) :
    (⟨['/'].intercalate (dropPieces count pieces)⟩ : Path).isAbsolute = false ∧
      (⟨['/'].intercalate (dropPieces count pieces)⟩ : Path).moves =
        (pieces.filter fun piece => !isSkipped piece).drop count := by
  rw [← filter_dropPieces]
  have hkept : ∀ piece ∈ dropPieces count pieces, '/' ∉ piece := fun piece hpiece =>
    hslash piece ((dropPieces_sublist count pieces).subset hpiece)
  cases hdrop : dropPieces count pieces with
  | nil => exact ⟨rfl, rfl⟩
  | cons first later =>
    have hfirst : first ≠ [] := by
      rintro rfl
      exact not_isSkipped_of_dropPieces hdrop rfl
    rw [hdrop] at hkept
    have hpieces : (⟨['/'].intercalate (first :: later)⟩ : Path).pieces = first :: later :=
      Text.splitOn_intercalate '/' first later (hkept first List.mem_cons_self)
        fun piece hpiece => hkept piece (List.mem_cons_of_mem _ hpiece)
    refine ⟨?_, by rw [moves, hpieces]⟩
    rw [← Bool.not_eq_true, isAbsolute_iff, hpieces]
    simp [hfirst]

end DropPieces

theorem moves_eq_of_isAbsolute (h : p.isAbsolute = true) :
    p.moves = p.pieces.tail.filter fun piece => !isSkipped piece := by
  obtain ⟨first, later, hp⟩ := List.exists_cons_of_ne_nil p.pieces_ne_nil
  have hfirst : first = [] := by simpa [hp] using head?_pieces_of_isAbsolute h
  simp [moves, hp, hfirst, isSkipped]

theorem lead_of_isAbsolute (h : p.isAbsolute = true) : p.lead = [.root] := if_pos h

theorem map_ofPiece_prefix {s t : List Text}
    (h : s.map Component.ofPiece <+: t.map Component.ofPiece) : s <+: t := by
  obtain ⟨rest, hrest⟩ := h
  obtain ⟨s', rest', rfl, hs, -⟩ := List.map_eq_append_iff.1 hrest.symm
  rw [(List.map_inj_right fun _ _ => Component.ofPiece_inj).1 hs]
  exact List.prefix_append s rest'

/-- **Taking a base away and putting it back.** What is left of a path below an absolute base leads
from the base to where the path leads. -/
theorem join_getD_below? {base : Path} (hbase : base.isAbsolute = true) (hp : p.isAbsolute = true) :
    (base.join ((base.below? p).getD p)).isAbsolute = true ∧
      (base.join ((base.below? p).getD p)).moves = p.moves := by
  rw [below?]
  split
  · next hprefix =>
    rw [List.isPrefixOf_iff_prefix, components_eq, components_eq, lead_of_isAbsolute hbase,
      lead_of_isAbsolute hp, List.singleton_append, List.singleton_append, List.cons_prefix_cons] at hprefix
    obtain ⟨moves, hmoves⟩ := map_ofPiece_prefix hprefix.2
    have hcount : base.components.length = base.moves.length + 1 := by
      rw [components_eq, lead_of_isAbsolute hbase]
      simp
    obtain ⟨hrelative, hrest⟩ := moves_dropPieces base.moves.length
      fun piece hpiece => slash_notMem_of_mem_pieces (p := p) (List.mem_of_mem_tail hpiece)
    simp only [hcount, Option.getD_some]
    refine ⟨?_, ?_⟩
    · rw [isAbsolute_join hrelative (isAbsolute_iff.1 hbase).1, hbase]
    · rw [moves_join hrelative, hrest, ← moves_eq_of_isAbsolute hp, ← hmoves, List.drop_left]
  · rw [Option.getD_none, join_of_isAbsolute base p hp]
    exact ⟨hp, rfl⟩

end Path

end CrudScaffold
