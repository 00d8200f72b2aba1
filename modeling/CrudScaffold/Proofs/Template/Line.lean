import CrudScaffold.Proofs.Path
import CrudScaffold.Proofs.Template
import Mathlib.Data.List.Basic

set_option autoImplicit false

/-! # Lines and words of templates

What is cut from a filled template at a separator is what is cut from the template itself, filled, as long
as no value holds the separator (`Template.splitOn_filled`). So the lines of a generated file are those of
its boilerplate, and the words of such a line are those of the line before it was filled. What a text may
begin with is known before it is filled, up to the first slot (`Template.mayBegin_of_isPrefix`). -/

namespace CrudScaffold

namespace Template

variable {value : Slot → Text} {slots : List Slot} {sep : Char} {t : Template}

/-- A template character by character, as its pieces are given. -/
def spelled (t : Template) : Template :=
  t.flatMap fun
    | .text s => s.map fun c => .text [c]
    | .slot slot => [.slot slot]

theorem filled_spelled (t : Template) : filled value t.spelled = filled value t := by
  have hletters : ∀ s : Text, filled value (s.map fun c => .text [c]) = s := by
    intro s
    induction s with
    | nil => rfl
    | cons c s ih => rw [List.map_cons, filled_text, ih, List.singleton_append]
  induction t with
  | nil => rfl
  | cons segment rest ih =>
    rw [spelled, List.flatMap_cons, filled_append, ← spelled, ih]
    cases segment with
    | text s => rw [filled_text, hletters]
    | slot slot => rw [filled_slot, filled_slot, filled_nil, List.append_nil]

/-! ## Pieces -/

/-- The pieces of a template between the occurrences of a separator. -/
def pieces (sep : Char) (t : Template) : List Template := t.spelled.splitOn (.text [sep])

theorem pieces_nil : pieces sep [] = [[]] := by
  rw [pieces, List.splitOn]
  exact List.splitOnP_nil

theorem pieces_slot (slot : Slot) (rest : Template) :
    pieces sep (.slot slot :: rest) = (pieces sep rest).modifyHead (.slot slot :: ·) := by
  have hspelled : spelled (.slot slot :: rest) = .slot slot :: spelled rest := rfl
  rw [pieces, hspelled, List.splitOn, List.splitOnP_cons_eq_if_modifyHead, if_neg (by simp)]
  rfl

theorem pieces_text_cons (c : Char) (s : Text) (rest : Template) :
    pieces sep (.text (c :: s) :: rest) =
      if c = sep then [] :: pieces sep (.text s :: rest)
      else (pieces sep (.text s :: rest)).modifyHead (.text [c] :: ·) := by
  have hspelled : spelled (.text (c :: s) :: rest) = .text [c] :: spelled (.text s :: rest) := rfl
  rw [pieces, hspelled, List.splitOn, List.splitOnP_cons_eq_if_modifyHead]
  simp [pieces, List.splitOn]

theorem splitOn_filled (ht : t.uses slots = true) (hvalue : ∀ slot ∈ slots, sep ∉ value slot) :
    Text.splitOn sep (t.filled value) = (t.pieces sep).map (filled value) := by
  induction t with
  | nil =>
    rw [pieces_nil]
    rfl
  | cons segment rest ih =>
    rw [uses, List.all_cons, Bool.and_eq_true] at ht
    have hrest := ih ht.2
    cases segment with
    | text s =>
      rw [filled_text]
      induction s with
      | nil => exact hrest
      | cons c s ihs =>
        have hlater := ihs ⟨rfl, ht.2⟩
        rw [List.cons_append, Text.splitOn, pieces_text_cons, hlater]
        split
        · rfl
        · cases hpieces : pieces sep (.text s :: rest) with
          | nil => exact absurd (hlater.trans (by rw [hpieces]; rfl)) (Text.splitOn_ne_nil sep _)
          | cons first later => rfl
    | slot slot =>
      have hslot : sep ∉ value slot := hvalue slot (List.contains_iff_mem.1 ht.1)
      rw [filled_slot, pieces_slot, Text.splitOn_append_of_notMem sep _ _ hslot, hrest]
      cases hpieces : pieces sep rest with
      | nil => exact absurd (hrest.trans (by rw [hpieces]; rfl)) (Text.splitOn_ne_nil sep _)
      | cons first later => rfl

theorem uses_append (a b : Template) : uses slots (a ++ b) = (uses slots a && uses slots b) :=
  List.all_append

theorem uses_flatten (ts : List Template) : uses slots ts.flatten = ts.all (uses slots) := List.all_flatten

/-- A piece has no slots that the template does not have. -/
theorem uses_of_mem_pieces (ht : t.uses slots = true) : ∀ piece ∈ t.pieces sep, uses slots piece = true := by
  have hfirst (segment : Segment) (later : List Template) (hsegment : uses slots [segment] = true)
      (hlater : ∀ piece ∈ later, uses slots piece = true) :
      ∀ piece ∈ later.modifyHead (segment :: ·), uses slots piece = true := by
    cases later with
    | nil => exact hlater
    | cons first later =>
      rw [List.forall_mem_cons] at hlater
      refine List.forall_mem_cons.2 ⟨?_, hlater.2⟩
      show uses slots ([segment] ++ first) = true
      rw [uses_append, hsegment, hlater.1, Bool.and_self]
  induction t with
  | nil => simp [pieces_nil, uses]
  | cons segment rest ih =>
    rw [← List.singleton_append, uses_append, Bool.and_eq_true] at ht
    have hrest := ih ht.2
    cases segment with
    | text s =>
      induction s with
      | nil => exact hrest
      | cons c s ihs =>
        rw [pieces_text_cons]
        split
        · exact List.forall_mem_cons.2 ⟨rfl, ihs ⟨rfl, ht.2⟩⟩
        · exact hfirst _ _ rfl (ihs ⟨rfl, ht.2⟩)
    | slot slot =>
      rw [pieces_slot]
      exact hfirst _ _ ht.1 hrest

/-! ## Lines -/

/-- The lines of a text that stands before some other ones, character by character. -/
def linesBefore (later : List Template) : Text → List Template
  | [] => later
  | c :: s =>
    if c = '\n' then [] :: linesBefore later s
    else (linesBefore later s).modifyHead (.text [c] :: ·)

/-- The lines of a template. -/
def lines : Template → List Template
  | [] => [[]]
  | .text s :: rest => linesBefore (lines rest) s
  | .slot slot :: rest => (lines rest).modifyHead (.slot slot :: ·)

theorem lines_eq_pieces (t : Template) : t.lines = t.pieces '\n' := by
  induction t with
  | nil => rw [lines, pieces_nil]
  | cons segment rest ih =>
    cases segment with
    | text s =>
      rw [lines, ih]
      induction s with
      | nil => rfl
      | cons c s ihs => rw [linesBefore, pieces_text_cons, ihs]
    | slot slot => rw [lines, pieces_slot, ih]

/-- The lines of a filled template are its lines, filled, if no value goes over the end of a line. -/
theorem splitOn_filled_newline (ht : t.uses slots = true) (hvalue : ∀ slot ∈ slots, '\n' ∉ value slot) :
    Text.splitOn '\n' (t.filled value) = t.lines.map (filled value) := by
  rw [lines_eq_pieces, splitOn_filled ht hvalue]

theorem uses_of_mem_lines (ht : t.uses slots = true) : ∀ line ∈ t.lines, uses slots line = true := by
  rw [lines_eq_pieces]
  exact uses_of_mem_pieces ht

/-- Whether a template ends where a line does. -/
def endsLine (t : Template) : Bool := t.spelled.getLast?.all (· == .text ['\n'])

section

variable {p : Template → Bool}

/-- The lines of two templates in a row, but for the empty one between them. -/
theorem filter_lines_append (hp : p [] = false) (ht : t.endsLine = true) (rest : Template) :
    (t ++ rest).lines.filter p = t.lines.filter p ++ rest.lines.filter p := by
  have hspelled : spelled (t ++ rest) = spelled t ++ spelled rest := List.flatMap_append
  simp only [lines_eq_pieces, pieces, hspelled]
  rcases List.eq_nil_or_concat (spelled t) with hnil | ⟨before, last, hlast⟩
  · rw [hnil, List.nil_append]
    simp [List.splitOn, hp]
  · obtain rfl : last = .text ['\n'] := by simpa [endsLine, hlast] using ht
    rw [hlast, List.concat_eq_append, List.append_assoc, List.singleton_append]
    simp [List.splitOn, List.splitOnP_append_cons, hp]

theorem filter_lines_flatten (hp : p [] = false) {ts : List Template}
    (hts : ∀ t ∈ ts, t.endsLine = true) :
    (lines ts.flatten).filter p = ts.flatMap fun t => t.lines.filter p := by
  induction ts with
  | nil => simp [lines, hp]
  | cons t ts ih =>
    rw [List.forall_mem_cons] at hts
    rw [List.flatten_cons, filter_lines_append hp hts.1, ih hts.2, List.flatMap_cons]

end

/-! ## Reading lines -/

/-- What is read off the members of a list is read off those that may tell something. -/
theorem filterMap_eq_filterMap_filter {α β : Type} {read? : α → Option β} {p : α → Bool} {l : List α}
    (hread : ∀ a ∈ l, p a = false → read? a = none) : l.filterMap read? = (l.filter p).filterMap read? := by
  rw [List.filterMap_filter]
  refine List.filterMap_congr fun a ha => ?_
  cases hp : p a with
  | true => rfl
  | false => exact hread a ha hp

theorem filterMap_filled {α : Type} {read? : Text → Option α} {p : Template → Bool} {ts : List Template}
    (hread : ∀ t ∈ ts, p t = false → read? (t.filled value) = none) :
    (ts.map (filled value)).filterMap read? = (ts.filter p).filterMap fun t => read? (t.filled value) := by
  rw [List.filterMap_map]
  exact filterMap_eq_filterMap_filter hread

/-- The text that a template begins with, whatever it is filled with. -/
def opening : Template → Text
  | .text s :: rest => s ++ opening rest
  | _ => []

theorem opening_isPrefix (t : Template) : t.opening <+: t.filled value := by
  induction t with
  | nil => exact List.nil_prefix
  | cons segment rest ih =>
    cases segment with
    | text s =>
      rw [opening, filled_text]
      exact (List.prefix_append_right_inj s).2 ih
    | slot slot => exact List.nil_prefix

/-- A template without slots is all opening. -/
theorem filled_eq_opening (ht : t.uses [] = true) : t.filled value = t.opening := by
  induction t with
  | nil => rfl
  | cons segment rest ih =>
    rw [uses, List.all_cons, Bool.and_eq_true] at ht
    cases segment with
    | text s => rw [filled_text, opening, ih ht.2]
    | slot slot => simp at ht

/-- Whether a template may begin with a text, for all that is known before it is filled. -/
def mayBegin (start : Text) (t : Template) : Bool :=
  start.isPrefixOf t.opening || (!t.uses [] && t.opening.isPrefixOf start)

theorem mayBegin_of_isPrefix {start : Text} (h : start <+: t.filled value) : t.mayBegin start = true := by
  by_cases ht : t.uses [] = true
  · rw [filled_eq_opening ht] at h
    simp [mayBegin, h]
  · simpa [mayBegin, ht] using List.prefix_or_prefix_of_prefix h t.opening_isPrefix

theorem eq_none_of_not_mayBegin {α : Type} {read? : Text → Option α} {start : Text}
    (hread : ∀ s, (read? s).isSome → start <+: s) (ht : t.mayBegin start = false) :
    read? (t.filled value) = none := by
  by_contra hsome
  have hbegins := hread _ (Option.isSome_iff_ne_none.2 hsome)
  simp [mayBegin_of_isPrefix hbegins] at ht

end Template

end CrudScaffold
