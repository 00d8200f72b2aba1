import CrudScaffold.Text
import Mathlib

set_option autoImplicit false

/-! # Occurrences

How often a part stands in a text. A part without line breaks stands in the lines of a text as often as in
the text (`Text.occurrences_eq_sum`), and a part that goes over the end of a word stands there or after it
(`Text.occurrences_word`). -/

namespace CrudScaffold

namespace Text

variable {sep c : Char} {part a b s t : Text}

/-- How often a part that is not empty stands in a text. -/
def occurrences (part : Text) : Text → Nat
  | [] => 0
  | c :: s => (if part <+: c :: s then 1 else 0) + occurrences part s

theorem infix_of_occurrences (h : occurrences part s ≠ 0) : part <:+: s := by
  induction s with
  | nil => exact absurd rfl h
  | cons c s ih =>
    rw [occurrences] at h
    split_ifs at h with hbegins
    · exact hbegins.isInfix
    · exact (ih (by simpa using h)).trans (List.infix_cons_iff.2 (Or.inr List.infix_rfl))

theorem occurrences_eq_zero_of_notMem (hpart : c ∈ part) (hs : c ∉ s) : occurrences part s = 0 := by
  by_contra h
  exact hs ((infix_of_occurrences h).subset hpart)

/-! ## Lines -/

theorem prefix_append_iff_of_notMem (hpart : sep ∉ part) (s t : Text) :
    part <+: s ++ sep :: t ↔ part <+: s := by
  refine ⟨fun h => ?_, fun h => h.trans (List.prefix_append s _)⟩
  rcases List.prefix_or_prefix_of_prefix h (List.prefix_append s (sep :: t)) with hs | hs
  · exact hs
  · obtain ⟨rest, rfl⟩ := hs
    rw [List.prefix_append_right_inj] at h
    cases rest with
    | nil => exact (List.append_nil s).symm ▸ List.prefix_rfl
    | cons d rest =>
      obtain ⟨rfl, -⟩ := List.cons_prefix_cons.1 h
      exact absurd (List.mem_append_right s List.mem_cons_self) hpart

theorem occurrences_append_of_notMem (hpart : sep ∉ part) (hne : part ≠ []) :
    occurrences part (s ++ sep :: t) = occurrences part s + occurrences part t := by
  induction s with
  | nil =>
    have hbegins : part <+: sep :: t ↔ part <+: [] := prefix_append_iff_of_notMem hpart [] t
    rw [List.nil_append, occurrences, occurrences, if_neg]
    rwa [hbegins, List.prefix_nil]
  | cons c s ih =>
    have hbegins : part <+: c :: (s ++ sep :: t) ↔ part <+: c :: s :=
      prefix_append_iff_of_notMem hpart (c :: s) t
    rw [List.cons_append, occurrences, occurrences, ih, if_congr hbegins rfl rfl, Nat.add_assoc]

theorem occurrences_intercalate (hpart : sep ∉ part) (hne : part ≠ []) (pieces : List Text) :
    occurrences part ([sep].intercalate pieces) = (pieces.map (occurrences part)).sum := by
  induction pieces with
  | nil => rfl
  | cons piece rest ih =>
    cases rest with
    | nil => simp [List.intercalate]
    | cons next later =>
      rw [List.intercalate_cons_cons, List.append_assoc, List.singleton_append,
        occurrences_append_of_notMem hpart hne, ih]
      simp only [List.map_cons, List.sum_cons]

/-- A part that does not hold a separator stands in the pieces of a text. -/
theorem occurrences_eq_sum (hpart : sep ∉ part) (hne : part ≠ []) (s : Text) :
    occurrences part s = ((splitOn sep s).map (occurrences part)).sum := by
  rw [← occurrences_intercalate hpart hne, intercalate_splitOn]

theorem sum_map_filter {α : Type} {f : α → Nat} {p : α → Bool} {pieces : List α}
    (h : ∀ piece ∈ pieces, p piece = false → f piece = 0) :
    (pieces.map f).sum = ((pieces.filter p).map f).sum := by
  induction pieces with
  | nil => rfl
  | cons piece pieces ih =>
    rw [List.forall_mem_cons] at h
    cases hp : p piece with
    | true => rw [List.filter_cons_of_pos hp, List.map_cons, List.map_cons, List.sum_cons, List.sum_cons, ih h.2]
    | false => rw [List.filter_cons_of_neg (by simp [hp]), List.map_cons, List.sum_cons, h.1 hp, ih h.2, Nat.zero_add]

/-! ## Words -/

theorem append_cons_prefix_iff (ha : sep ∉ a) (hb : sep ∉ b) :
    a ++ sep :: s <+: b ++ sep :: t ↔ a = b ∧ s <+: t := by
  constructor
  · rintro ⟨rest, h⟩
    rw [List.append_assoc, List.cons_append] at h
    have hcut := congrArg (cut sep) h
    rw [cut_append sep _ _ ha, cut_append sep _ _ hb] at hcut
    obtain ⟨hword, hrest⟩ := Prod.mk.inj hcut
    exact ⟨hword, rest, Option.some.inj hrest⟩
  · rintro ⟨rfl, rest, rfl⟩
    exact ⟨rest, by simp⟩

/-- A part of several words stands in a text where its first word ends the first one of the text and its
rest begins what follows, or after that. -/
theorem occurrences_word (ha : sep ∉ a) (hb : sep ∉ b) :
    occurrences (a ++ sep :: s) (b ++ sep :: t) =
      (if a <:+ b ∧ s <+: t then 1 else 0) + occurrences (a ++ sep :: s) t := by
  induction b with
  | nil =>
    have hfirst : a ++ sep :: s <+: sep :: t ↔ a = [] ∧ s <+: t := append_cons_prefix_iff ha hb
    simp only [List.nil_append, occurrences, hfirst, List.suffix_nil]
  | cons c b ih =>
    have hfirst : a ++ sep :: s <+: c :: (b ++ sep :: t) ↔ a = c :: b ∧ s <+: t :=
      append_cons_prefix_iff ha hb
    rw [List.cons_append, occurrences, if_congr hfirst rfl rfl, ih fun h => hb (List.mem_cons_of_mem c h),
      ← Nat.add_assoc]
    congr 1
    -- The part cannot stand at the start of the word and further on.
    have hshorter : ¬c :: b <:+ b := fun hsuffix => by
      have hlength := hsuffix.length_le
      rw [List.length_cons] at hlength
      omega
    by_cases hword : a = c :: b
    · simp [hword, hshorter]
    · simp [List.suffix_cons_iff, hword]

/-- In a text of the same words but for the second one, a phrase stands at the start or nowhere. -/
theorem occurrences_phrase {name other sign more : Text} (ha : sep ∉ a) (hname : sep ∉ name) (hother : sep ∉ other)
    (hsign : sep ∉ sign) (hne : name ≠ sign) (hc : c ∈ a) (hlater : c ∉ sign ++ sep :: (s ++ more)) :
    occurrences (a ++ sep :: (name ++ sep :: (sign ++ sep :: s)))
      (a ++ sep :: (other ++ sep :: (sign ++ sep :: (s ++ more)))) = if name = other then 1 else 0 := by
  have hafter : occurrences (a ++ sep :: (name ++ sep :: (sign ++ sep :: s)))
      (other ++ sep :: (sign ++ sep :: (s ++ more))) = 0 := by
    rw [occurrences_word ha hother, occurrences_eq_zero_of_notMem (List.mem_append_left _ hc) hlater, if_neg]
    rw [append_cons_prefix_iff hname hsign]
    exact fun h => hne h.2.1
  rw [occurrences_word ha ha, hafter]
  simp only [append_cons_prefix_iff hname hother, append_cons_prefix_iff hsign hsign]
  simp

end Text

end CrudScaffold
