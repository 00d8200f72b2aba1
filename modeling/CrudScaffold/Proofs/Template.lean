import CrudScaffold.Template

set_option autoImplicit false

/-! # Filling as substitution

Filling a template is one pass over its source: each mark of a slot gives way to the text of the slot,
and everything else stays (`substitute_source`). The pass goes on after a mark and never looks at what
it has put there, so a text that looks like a mark is kept as it is. That the marks in the source are
those of the slots, and no others, is a condition on the literal text of a template
(`Template.isUnambiguous`). -/

namespace CrudScaffold

theorem Text.eq_append_of_dropStart? {start s rest : Text} (h : dropStart? start s = some rest) :
    s = start ++ rest := by
  fun_induction dropStart? start s with
  | case1 s => exact Option.some.inj h
  | case2 => simp at h
  | case3 start c s ih => rw [ih h, List.cons_append]
  | case4 => simp at h

/-! ## Marks -/

/-- All slots. -/
def Slot.all : List Slot :=
  [.modelName, .modelPascal, .modelPlural, .schemaFields, .createRules, .updateRules]

/-- How a slot is written in the source of a template. -/
def Slot.mark (slot : Slot) : Text := (Segment.slot slot).source

theorem Slot.mark_eq (slot : Slot) : ∃ name, slot.mark = '\x7b' :: '\x7b' :: name := ⟨_, rfl⟩

/-- The slot whose mark a text begins with, and the text after the mark. -/
def markAt? (s : Text) : Option (Slot × Text) :=
  Slot.all.findSome? fun slot => (Text.dropStart? slot.mark s).map (slot, ·)

theorem markAt?_mark (slot : Slot) (s : Text) : markAt? (slot.mark ++ s) = some (slot, s) := by
  cases slot <;> rfl

theorem length_lt_of_markAt? {s rest : Text} {slot : Slot} (h : markAt? s = some (slot, rest)) :
    rest.length < s.length := by
  obtain ⟨other, -, hfound⟩ := List.exists_of_findSome?_eq_some h
  obtain ⟨after, hdrop, hpair⟩ := Option.map_eq_some_iff.1 hfound
  obtain ⟨rfl, rfl⟩ := Prod.mk.inj hpair
  obtain ⟨name, hmark⟩ := other.mark_eq
  rw [Text.eq_append_of_dropStart? hdrop, hmark]
  simp
  omega

/-- A text that does not begin with two braces does not begin with a mark. -/
theorem markAt?_eq_none {c : Char} {s : Text} (h : ¬(c = '\x7b' ∧ s.head? = some '\x7b')) :
    markAt? (c :: s) = none := by
  rw [markAt?, List.findSome?_eq_none_iff]
  intro slot _
  obtain ⟨name, hmark⟩ := slot.mark_eq
  rw [Option.map_eq_none_iff, hmark, Text.dropStart?]
  split
  · next hc =>
    cases s with
    | nil => rfl
    | cons d s =>
      rw [Text.dropStart?, if_neg]
      rintro rfl
      exact h ⟨hc.symm, rfl⟩
  · rfl

/-- Put texts in the place of marks, in one pass from the start to the end. -/
def substitute (value : Slot → Text) : Text → Text
  | [] => []
  | c :: s =>
    match _ : markAt? (c :: s) with
    | some (slot, rest) => value slot ++ substitute value rest
    | none => c :: substitute value s
termination_by s => s.length
decreasing_by
  · exact length_lt_of_markAt? (by assumption)
  · simp

section

variable (value : Slot → Text)

theorem substitute_mark (slot : Slot) (s : Text) :
    substitute value (slot.mark ++ s) = value slot ++ substitute value s := by
  obtain ⟨name, hmark⟩ := slot.mark_eq
  have hat := markAt?_mark slot s
  rw [hmark, List.cons_append] at hat ⊢
  rw [substitute]
  split
  · next other rest hother =>
    obtain ⟨rfl, rfl⟩ := Prod.mk.inj (Option.some.inj (hother.symm.trans hat))
    rfl
  · next hnone => exact absurd (hat.symm.trans hnone) (by simp)

theorem substitute_cons {c : Char} {s : Text} (h : markAt? (c :: s) = none) :
    substitute value (c :: s) = c :: substitute value s := by
  rw [substitute]
  split
  · next hsome => exact absurd (h.symm.trans hsome) (by simp)
  · rfl

end

/-! ## Unambiguous templates -/

/-- Whether no two braces in a row begin in a text that stands before another one. -/
def Text.isPlain (after : Text) : Text → Bool
  | [] => true
  | c :: s => !(c == '\x7b' && (s ++ after).head? == some '\x7b') && isPlain after s

/-- Whether the only marks in the source of a template are those of its slots. -/
def Template.isUnambiguous : Template → Bool
  | [] => true
  | .text s :: rest => Text.isPlain (Template.source rest) s && isUnambiguous rest
  | .slot _ :: rest => isUnambiguous rest

/-- Whether a template is unambiguous and remains so after any other one that is. -/
def Template.standsAlone (t : Template) : Bool :=
  t.isUnambiguous && !(t.source.head? == some '\x7b')

theorem Text.isPlain_append {after next : Text} (hnext : next.head? ≠ some '\x7b') (s : Text)
    (h : Text.isPlain after s = true) : Text.isPlain (after ++ next) s = true := by
  induction s with
  | nil => rfl
  | cons c s ih =>
    rw [Text.isPlain, Bool.and_eq_true] at h ⊢
    refine ⟨?_, ih h.2⟩
    cases hs : s ++ after with
    | nil => simp [← List.append_assoc, hs, hnext]
    | cons d rest =>
      have hfirst := h.1
      rw [hs] at hfirst
      rwa [← List.append_assoc, hs]

namespace Template

variable {a b : Template}

theorem source_append (a b : Template) : source (a ++ b) = source a ++ source b := List.flatMap_append

theorem isUnambiguous_append (ha : isUnambiguous a = true) (hb : standsAlone b = true) :
    isUnambiguous (a ++ b) = true := by
  rw [standsAlone, Bool.and_eq_true] at hb
  induction a with
  | nil => exact hb.1
  | cons segment rest ih =>
    cases segment with
    | text s =>
      rw [isUnambiguous, Bool.and_eq_true] at ha
      rw [List.cons_append, isUnambiguous, Bool.and_eq_true, source_append]
      exact ⟨Text.isPlain_append (by simpa using hb.2) s ha.1, ih ha.2⟩
    | slot slot => exact ih ha

theorem standsAlone_append (ha : standsAlone a = true) (hb : standsAlone b = true) :
    standsAlone (a ++ b) = true := by
  have hboth := isUnambiguous_append (Bool.and_eq_true_iff.1 ha).1 hb
  rw [standsAlone, Bool.and_eq_true] at ha hb ⊢
  refine ⟨hboth, ?_⟩
  rw [source_append]
  cases hs : source a with
  | nil => exact hb.2
  | cons c s => simpa [hs] using ha.2

theorem standsAlone_flatten {pieces : List Template}
    (h : ∀ piece ∈ pieces, standsAlone piece = true) : standsAlone pieces.flatten = true := by
  induction pieces with
  | nil => rfl
  | cons piece pieces ih =>
    rw [List.forall_mem_cons] at h
    exact standsAlone_append h.1 (ih h.2)

end Template

/-! ## Filled templates -/

section

variable (value : Slot → Text)

/-- A template with texts in its slots. -/
def Template.filled (t : Template) : Text :=
  t.flatMap fun
    | .text s => s
    | .slot slot => value slot

@[simp] theorem Template.filled_nil : filled value [] = [] := rfl

@[simp] theorem Template.filled_text (s : Text) (rest : Template) :
    filled value (.text s :: rest) = s ++ filled value rest := rfl

@[simp] theorem Template.filled_slot (slot : Slot) (rest : Template) :
    filled value (.slot slot :: rest) = value slot ++ filled value rest := rfl

theorem Template.filled_append (a b : Template) :
    filled value (a ++ b) = filled value a ++ filled value b := List.flatMap_append

theorem substitute_append_of_isPlain {s after : Text} (h : Text.isPlain after s = true) :
    substitute value (s ++ after) = s ++ substitute value after := by
  induction s with
  | nil => rfl
  | cons c s ih =>
    rw [Text.isPlain, Bool.and_eq_true] at h
    have hnone : markAt? (c :: (s ++ after)) = none := by
      refine markAt?_eq_none ?_
      rintro ⟨hc, hhead⟩
      simp [hc, hhead] at h
    rw [List.cons_append, substitute_cons value hnone, ih h.2, List.cons_append]

/-- **Substitution.** The text of a filled template is its source with the texts of the slots in the
place of their marks. -/
theorem substitute_source {t : Template} (h : t.isUnambiguous = true) :
    substitute value t.source = t.filled value := by
  induction t with
  | nil => rw [Template.source, List.flatMap_nil, substitute, Template.filled_nil]
  | cons segment rest ih =>
    rw [Template.source, List.flatMap_cons, ← Template.source]
    cases segment with
    | text s =>
      rw [Template.isUnambiguous, Bool.and_eq_true] at h
      rw [Segment.source, substitute_append_of_isPlain value h.1, ih h.2, Template.filled_text]
    | slot slot => rw [← Slot.mark, substitute_mark, ih h, Template.filled_slot]

/-- With a text for every slot, filling succeeds, and it fills every slot. -/
theorem fillFrom_eq_filled {value? : Slot → Option Text} (h : ∀ slot, value? slot = some (value slot))
    (t : Template) : ∀ p, t.fillFrom value? p = .ok (t.filled value) := by
  induction t with
  | nil => exact fun p => rfl
  | cons segment rest ih =>
    intro p
    cases segment with
    | text s => simp only [Template.fillFrom, ih, Except.map, Template.filled_text]
    | slot slot => simp only [Template.fillFrom, h, ih, Except.map, Template.filled_slot]

end

/-- Whether a template has no slots but some given ones. -/
def Template.uses (slots : List Slot) (t : Template) : Bool :=
  t.all fun
    | .text _ => true
    | .slot slot => slots.contains slot

/-- Only the texts of the slots that a template uses matter. -/
theorem Template.filled_congr {slots : List Slot} {value value' : Slot → Text} {t : Template}
    (ht : t.uses slots = true) (h : ∀ slot ∈ slots, value slot = value' slot) :
    filled value t = filled value' t := by
  induction t with
  | nil => rfl
  | cons segment rest ih =>
    rw [uses, List.all_cons, Bool.and_eq_true] at ht
    cases segment with
    | text s => rw [filled_text, filled_text, ih ht.2]
    | slot slot =>
      have hslot : slot ∈ slots := List.contains_iff_mem.1 ht.1
      rw [filled_slot, filled_slot, h slot hslot, ih ht.2]

end CrudScaffold
