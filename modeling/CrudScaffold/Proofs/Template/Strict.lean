import CrudScaffold.Proofs.Boilerplate
import Mathlib.Data.List.Induction

set_option autoImplicit false

/-! # Strict rendering

A template is filled if the context has a value for every slot whose mark stands in the source, and else the
answer is the first mark without one (`Family.render_strict`). Filling walks over the parts of a template, and
the answer is about a text. The two agree since the source of a boilerplate has no marks but those of its
slots: a mark in the source cannot begin within a literal text, nor within another mark
(`Template.mem_or_exists_of_mark`). -/

namespace CrudScaffold

/-! ## Lines and columns -/

/-- The end of a text after its last line break. -/
def Text.lastLine (s : Text) : Text := (s.reverse.takeWhile (· != '\n')).reverse

theorem Position.after_append (p : Position) (s t : Text) : p.after (s ++ t) = (p.after s).after t :=
  List.foldl_append

/-- Lines are counted by line breaks and columns by the characters after the last one, from one. -/
theorem Position.start_after (s : Text) :
    Position.start.after s = ⟨s.count '\n' + 1, s.lastLine.length + 1⟩ := by
  induction s using List.reverseRecOn with
  | nil => rfl
  | append_singleton s c ih =>
    rw [Position.after_append, ih]
    by_cases hc : c = '\n'
    · subst hc
      simp [Position.after, Text.lastLine]
    · simp [Position.after, Text.lastLine, hc]

/-! ## Marks in a source -/

variable {slot : Slot} {after before rest s : Text}

/-- No mark begins in a plain text. -/
theorem exists_of_isPlain (h : Text.isPlain after s = true) (heq : s ++ after = before ++ (slot.mark ++ rest)) :
    ∃ later, before = s ++ later ∧ after = later ++ (slot.mark ++ rest) := by
  induction s generalizing before with
  | nil => exact ⟨before, rfl, heq⟩
  | cons c s ih =>
    rw [Text.isPlain, Bool.and_eq_true] at h
    cases before with
    | nil =>
      obtain ⟨name, hmark⟩ := slot.mark_eq
      rw [hmark] at heq
      obtain ⟨rfl, hs⟩ := List.cons.inj heq
      have hsecond : s ++ after = '\x7b' :: (name ++ rest) := hs
      simp [hsecond] at h
    | cons d before =>
      obtain ⟨rfl, hs⟩ := List.cons.inj heq
      obtain ⟨later, rfl, hafter⟩ := ih h.2 hs
      exact ⟨later, rfl, hafter⟩

/-- No mark begins in another one, whatever follows that. -/
theorem Slot.isPlain_tail_mark (slot : Slot) (after : Text) : Text.isPlain after slot.mark.tail = true := by
  cases slot <;> rfl

namespace Template

variable {t a b : Template}

/-- A mark that begins in the source of the first parts of a template is that of a slot there. -/
theorem mem_or_exists_of_mark (h : isUnambiguous (a ++ b) = true)
    (heq : source (a ++ b) = before ++ (slot.mark ++ rest)) :
    .slot slot ∈ a ∨ ∃ later, before = a.source ++ later := by
  induction a generalizing before with
  | nil => exact .inr ⟨before, rfl⟩
  | cons segment a ih =>
    rw [List.cons_append, source, List.flatMap_cons, ← source] at heq
    rw [source, List.flatMap_cons, ← source, List.mem_cons]
    cases segment with
    | text s =>
      rw [List.cons_append, isUnambiguous, Bool.and_eq_true] at h
      obtain ⟨later, rfl, hlater⟩ := exists_of_isPlain h.1 heq
      obtain hmem | ⟨later, rfl⟩ := ih h.2 hlater
      · exact .inl (.inr hmem)
      · exact .inr ⟨later, by rw [Segment.source, List.append_assoc]⟩
    | slot first =>
      -- What begins where a mark begins is that mark, and nothing begins further on in it.
      cases before with
      | nil =>
        have hat := markAt?_mark first (source (a ++ b))
        rw [Slot.mark, heq, List.nil_append, markAt?_mark] at hat
        obtain ⟨rfl, -⟩ := Prod.mk.inj (Option.some.inj hat)
        exact .inl (.inl rfl)
      | cons d before =>
        obtain ⟨name, hmark⟩ := first.mark_eq
        have hplain := first.isPlain_tail_mark (source (a ++ b))
        rw [← Slot.mark] at heq ⊢
        rw [hmark] at heq hplain ⊢
        obtain ⟨rfl, hs⟩ := List.cons.inj heq
        obtain ⟨later, rfl, hlater⟩ := exists_of_isPlain hplain hs
        obtain hmem | ⟨later, rfl⟩ := ih h hlater
        · exact .inl (.inr hmem)
        · exact .inr ⟨later, by simp⟩

theorem mem_of_mark_before (h : isUnambiguous (a ++ b) = true)
    (heq : source (a ++ b) = before ++ slot.mark ++ rest) (hbefore : before.length < (source a).length) :
    .slot slot ∈ a := by
  rw [List.append_assoc] at heq
  obtain hmem | ⟨later, rfl⟩ := mem_or_exists_of_mark h heq
  · exact hmem
  · rw [List.length_append] at hbefore
    omega

/-- The slots of a template are those whose marks stand in its source. -/
theorem mark_isInfix_source_iff (h : isUnambiguous t = true) : slot.mark <:+: t.source ↔ .slot slot ∈ t := by
  constructor
  · rintro ⟨before, rest, heq⟩
    obtain ⟨name, hmark⟩ := slot.mark_eq
    have hbefore : before.length < (source t).length := by
      rw [← heq, hmark]
      simp only [List.length_append, List.length_cons]
      omega
    exact mem_of_mark_before (b := []) (by rwa [List.append_nil]) (by rw [List.append_nil, heq]) hbefore
  · intro hmem
    obtain ⟨a, b, rfl⟩ := List.append_of_mem hmem
    exact ⟨source a, source b, by simp [source, Slot.mark]⟩

/-! ## Filling -/

/-- Filling succeeds with all values in their places, or fails at the first slot without one. -/
theorem fillFrom_cases (value? : Slot → Option Text) (t : Template) (p : Position) :
    ((∀ slot, .slot slot ∈ t → (value? slot).isSome = true) ∧
      t.fillFrom value? p = .ok (t.filled fun slot => (value? slot).getD [])) ∨
    ∃ (a : Template) (slot : Slot) (b : Template), t = a ++ .slot slot :: b ∧
      (∀ other, .slot other ∈ a → (value? other).isSome = true) ∧ value? slot = none ∧
      t.fillFrom value? p = .error (slot, p.after a.source) := by
  induction t generalizing p with
  | nil => exact .inl ⟨by simp, rfl⟩
  | cons segment rest ih =>
    cases segment with
    | text s =>
      obtain ⟨hall, hok⟩ | ⟨a, slot, b, rfl, hearlier, hnone, herror⟩ := ih (p.after (Segment.text s).source)
      · exact .inl ⟨by simpa using hall, by simp only [fillFrom, hok, Except.map, filled_text]⟩
      · refine .inr ⟨.text s :: a, slot, b, rfl, by simpa using hearlier, hnone, ?_⟩
        simp only [fillFrom, herror, Except.map, source, List.flatMap_cons, Position.after_append]
    | slot first =>
      cases hfirst : value? first with
      | none => exact .inr ⟨[], first, rest, rfl, by simp, hfirst, by simp only [fillFrom, hfirst]; rfl⟩
      | some text =>
        obtain ⟨hall, hok⟩ | ⟨a, slot, b, rfl, hearlier, hnone, herror⟩ := ih (p.after (Segment.slot first).source)
        · refine .inl ⟨by simpa [hfirst] using hall, ?_⟩
          simp only [fillFrom, hok, hfirst, Except.map, filled_slot, Option.getD_some]
        · refine .inr ⟨.slot first :: a, slot, b, rfl, by simpa [hfirst] using hearlier, hnone, ?_⟩
          simp only [fillFrom, hfirst, herror, Except.map, source, List.flatMap_cons, Position.after_append]

end Template

/-! ## Rendering -/

namespace ContextValue

/-- Whether a context has a value for a slot. A value that is null is one. -/
def Provides (context : ContextValue) (slot : Slot) : Prop :=
  ∃ entries, context = .object entries ∧ slot.name ∈ entries.map Prod.fst

/-- The text that a context puts in the place of a slot. -/
def slotText (context : ContextValue) (slot : Slot) : Text := ((context.slot? slot).map text).getD []

theorem isSome_slot?_iff (context : ContextValue) (slot : Slot) :
    ((context.slot? slot).map text).isSome = true ↔ context.Provides slot := by
  rw [Option.isSome_map, Provides]
  cases context with
  | object entries =>
    rw [slot?, List.lookup_isSome_iff]
    constructor
    · rintro ⟨entry, hentry, hname⟩
      exact ⟨entries, rfl, List.mem_map.2 ⟨entry, hentry, (beq_iff_eq.1 hname).symm⟩⟩
    · rintro ⟨_, hsame, hname⟩
      obtain rfl := object.inj hsame
      obtain ⟨entry, hentry, hname⟩ := List.mem_map.1 hname
      exact ⟨entry, hentry, beq_iff_eq.2 hname.symm⟩
  | _ => simp [slot?]

/-- A context with values for some slots is an object that has them all, unless there are none. -/
theorem forall_provides_iff (context : ContextValue) (p : Slot → Prop) :
    (∀ slot, p slot → context.Provides slot) ↔
      (∀ slot, ¬p slot) ∨
        ∃ entries, context = .object entries ∧ ∀ slot, p slot → slot.name ∈ entries.map Prod.fst := by
  constructor
  · intro h
    by_cases hsome : ∃ slot, p slot
    · obtain ⟨slot, hslot⟩ := hsome
      obtain ⟨entries, rfl, -⟩ := h slot hslot
      refine .inr ⟨entries, rfl, fun other hother => ?_⟩
      obtain ⟨_, hsame, hname⟩ := h other hother
      obtain rfl := object.inj hsame
      exact hname
    · exact .inl (not_exists.1 hsome)
  · rintro (hnone | ⟨entries, rfl, hnames⟩) slot hslot
    · exact absurd hslot (hnone slot)
    · exact ⟨entries, rfl, hnames slot hslot⟩

end ContextValue

/-! ## Names in messages -/

/-- Underscores and small letters are not escaped. -/
theorem escape_eq_singleton {c : Char} (h : 95 ≤ c.toNat ∧ c.toNat ≤ 122) : escape c = [c] := by
  have hranges : escapedRanges.all (fun range => range.2 < 95 || 122 < range.1) = true := by decide +kernel
  have hplain : isEscaped c = false := by
    rw [isEscaped, List.any_eq_false]
    intro range hrange
    have hapart := List.all_eq_true.1 hranges range hrange
    simp only [Bool.or_eq_true, decide_eq_true_eq] at hapart
    simp only [Bool.and_eq_true, decide_eq_true_eq]
    omega
  have hne : ∀ d : Char, d.toNat < 95 → c ≠ d := by
    rintro d hd rfl
    omega
  simp [escape, hplain, hne]

theorem flatMap_escape {s : Text} (h : ∀ c ∈ s, 95 ≤ c.toNat ∧ c.toNat ≤ 122) : s.flatMap escape = s := by
  induction s with
  | nil => rfl
  | cons c s ih =>
    rw [List.forall_mem_cons] at h
    rw [List.flatMap_cons, escape_eq_singleton h.1, ih h.2, List.singleton_append]

/-- The name of a slot stands in quotation marks as it is. -/
theorem Slot.name_isInfix_quoted (slot : Slot) (a b : Text) : slot.name <:+: a ++ slot.name.quoted ++ b := by
  have hletters : slot.name.all (fun c => decide (95 ≤ c.toNat ∧ c.toNat ≤ 122)) = true := by
    cases slot <;> decide
  rw [Text.quoted, flatMap_escape fun c hc => of_decide_eq_true (List.all_eq_true.1 hletters c hc)]
  exact ⟨a ++ ['"'], '"' :: b, by simp⟩

/-- The error about a slot says where its mark is and what the slot is called. -/
theorem RenderError.exists_message_eq (context : ContextValue) (template : Text) (slot : Slot) (position : Position) :
    ∃ cause, RenderError.message (if context.isArray then .sequence template slot position
        else .missing template slot position) = message.place template position ++ cause ∧
      slot.name <:+: cause := by
  split
  · exact ⟨_, List.append_assoc _ _ _, (List.suffix_append _ _).isInfix⟩
  · have hassoc : ∀ a b c d : Text, a ++ b ++ c ++ d = a ++ (b ++ c ++ d) := fun a b c d => by simp
    exact ⟨_, hassoc _ _ _ _, slot.name_isInfix_quoted _ _⟩

/-! ## Boilerplates -/

namespace Family

/-- The source of the template of an artifact. -/
def source (family : Family) (artifact : Artifact) : Text := (family.boilerplate artifact).source

/-- **Strict rendering.** A template of a family is rendered exactly if it has no mark in its source, or the
context is an object with a value for every slot that has one. What comes of it is the source with these
values in the place of the marks. Else the first mark without a value is told, with its line and column. -/
theorem render_strict {family : Family} {artifact : Artifact} (h : artifact ∈ family.artifacts)
    (context : ContextValue) :
    ((∃ s, family.render artifact context = .ok s) ↔
      (∀ slot : Slot, ¬slot.mark <:+: family.source artifact) ∨
        ∃ entries, context = .object entries ∧
          ∀ slot : Slot, slot.mark <:+: family.source artifact → slot.name ∈ entries.map Prod.fst) ∧
    (∀ s, family.render artifact context = .ok s →
      s = substitute context.slotText (family.source artifact)) ∧
    ((¬∃ s, family.render artifact context = .ok s) →
      ∃ (before rest : Text) (slot : Slot) (error : RenderError) (cause : Text),
        family.source artifact = before ++ slot.mark ++ rest ∧ ¬context.Provides slot ∧
        (∀ (other : Slot) (before' rest' : Text), family.source artifact = before' ++ other.mark ++ rest' →
          before'.length < before.length → context.Provides other) ∧
        family.render artifact context = .error error ∧
        error.message = RenderError.message.place (family.templateName artifact)
          ⟨before.count '\n' + 1, before.lastLine.length + 1⟩ ++ cause ∧
        slot.name <:+: cause) := by
  have hunambiguous := isUnambiguous_boilerplate family artifact
  have hmarks : ∀ slot : Slot, slot.mark <:+: family.source artifact ↔ .slot slot ∈ family.boilerplate artifact :=
    fun slot => Template.mark_isInfix_source_iff hunambiguous
  rw [← context.forall_provides_iff, render, if_pos h, Template.render, Template.fill]
  simp only [hmarks, ← context.isSome_slot?_iff]
  obtain ⟨hall, hok⟩ | ⟨a, slot, b, ht, hearlier, hnone, herror⟩ := Template.fillFrom_cases
    (fun slot => (context.slot? slot).map ContextValue.text) (family.boilerplate artifact) .start
  · rw [hok]
    refine ⟨⟨fun _ => hall, fun _ => ⟨_, rfl⟩⟩, fun s hs => ?_, fun hno => absurd ⟨_, rfl⟩ hno⟩
    rw [source, substitute_source _ hunambiguous]
    exact (Except.ok.inj hs).symm
  · have hsource : family.source artifact = Template.source a ++ slot.mark ++ Template.source b := by
      rw [source, ht, Template.source_append, List.append_assoc]
      rfl
    obtain ⟨cause, hmessage, hcause⟩ := RenderError.exists_message_eq context (family.templateName artifact) slot
      (Position.start.after (Template.source a))
    rw [herror]
    refine ⟨⟨fun ⟨_, hs⟩ => (nomatch hs), fun hall => ?_⟩, fun _ hs => (nomatch hs), fun _ =>
      ⟨Template.source a, Template.source b, slot, _, cause, hsource, by simp [hnone], ?_, rfl, ?_, hcause⟩⟩
    · have hsome := hall slot (by simp [ht])
      simp [hnone] at hsome
    · intro other before' rest' hother hbefore
      rw [ht] at hunambiguous
      rw [source, ht] at hother
      exact hearlier other (Template.mem_of_mark_before hunambiguous hother hbefore)
    · rw [← Position.start_after]
      exact hmessage

/-- A null, an empty list and a number for the slots of a schema. -/
def emptyish : List (Text × ContextValue) :=
  [("model_name", .null), ("schema_fields", .array []), ("model_pascal", .number (.integer 0))]

theorem render_strict_emptyish : ∃ s, Family.model.render .model (.object emptyish) = .ok s :=
  (render_strict (by decide) _).1.2 (.inr ⟨emptyish, rfl, fun slot => by cases slot <;> decide +kernel⟩)

end Family

end CrudScaffold
