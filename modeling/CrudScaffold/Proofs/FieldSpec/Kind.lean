import CrudScaffold.Proofs.Case.Mapping
import CrudScaffold.Proofs.FieldSpec.Rule

set_option autoImplicit false

/-! # Kinds and schema types

A tag names a kind exactly if it spells the word of the kind (`FieldKind.ofTag_eq_iff`), that is, equals it
up to the case of ASCII letters. The type that a schema shows is the tag with a capital, which spells the
same words but for one case: a tag that spells `string` with a long `s` or a ligature at its start names no
kind, and its capital makes it `String` (`FieldSpec.agrees_iff`). -/

namespace CrudScaffold

open Text

/-! ## Words of kinds -/

namespace FieldKind

variable {kind : FieldKind} {tag tag' word : Text}

/-- The word that names a kind. -/
def word? : FieldKind → Option Text
  | string => some "string"
  | number => some "number"
  | boolean => some "boolean"
  | date => some "date"
  | other => none

theorem exists_word (h : kind ≠ other) : ∃ word, kind.word? = some word := by
  cases kind <;> simp [word?] at h ⊢

theorem plain_of_word? (h : kind.word? = some word) : ∀ letter ∈ word, letter ∈ plainLetters := by
  have hall : word.all plainLetters.contains = true := by
    cases kind <;> simp only [word?, Option.some.injEq, reduceCtorEq] at h <;> subst h <;> decide +kernel
  simpa using hall

theorem exists_cons_of_word? (h : kind.word? = some word) :
    ∃ letter rest, word = letter :: rest ∧ letter ∈ ['s', 'n', 'b', 'd'] ∧
      (letter = 's' → kind = string) := by
  cases kind <;> simp only [word?, Option.some.injEq, reduceCtorEq] at h <;> subst h
  · exact ⟨'s', "tring", rfl, by decide, fun _ => rfl⟩
  · exact ⟨'n', "umber", rfl, by decide, by decide⟩
  · exact ⟨'b', "oolean", rfl, by decide, by decide⟩
  · exact ⟨'d', "ate", rfl, by decide, by decide⟩

theorem ofTag_eq_iff (h : kind.word? = some word) : ofTag tag = kind ↔ tag.Spells word := by
  rw [← lower_eq_iff (plain_of_word? h), ofTag]
  cases kind <;> simp only [word?, Option.some.injEq, reduceCtorEq] at h <;> subst h <;>
    split_ifs <;> simp_all

theorem ofTag_eq_other (h : ∀ kind word, word? kind = some word → ¬tag.Spells word) :
    ofTag tag = other := by
  by_contra hkind
  obtain ⟨word, hword⟩ := exists_word hkind
  exact h _ word hword ((ofTag_eq_iff hword).1 rfl)

theorem ofTag_eq_iff_eqIgnoringAsciiCase (h : kind.word? = some word) :
    ofTag tag = kind ↔ eqIgnoringAsciiCase tag word = true := by
  have hletters : ∀ letter ∈ word, 'a' ≤ letter ∧ letter ≤ 'z' := fun letter hletter =>
    bounds_of_plainLetters letter (plain_of_word? h letter hletter)
  rw [ofTag_eq_iff h, eqIgnoringAsciiCase_iff hletters]

/-- **Tags are recognised up to the case of ASCII letters.** A tag names a kind exactly if it equals the word
of the kind up to the case of ASCII letters, and any other tag names none. That all characters of the tag are
put in lower case for it, and not its ASCII letters alone, makes no difference: none but the two forms of a
letter of these words becomes that letter, whatever stands around it. -/
theorem ofTag_ignoring_asciiCase (tag : Text) :
    (ofTag tag = string ↔ eqIgnoringAsciiCase tag "string" = true) ∧
      (ofTag tag = number ↔ eqIgnoringAsciiCase tag "number" = true) ∧
      (ofTag tag = boolean ↔ eqIgnoringAsciiCase tag "boolean" = true) ∧
      (ofTag tag = date ↔ eqIgnoringAsciiCase tag "date" = true) ∧
      (ofTag tag = other ↔
        (["string", "number", "boolean", "date"] : List Text).any (eqIgnoringAsciiCase tag) = false) := by
  have hstring : ofTag tag = string ↔ _ := ofTag_eq_iff_eqIgnoringAsciiCase rfl
  have hnumber : ofTag tag = number ↔ _ := ofTag_eq_iff_eqIgnoringAsciiCase rfl
  have hboolean : ofTag tag = boolean ↔ _ := ofTag_eq_iff_eqIgnoringAsciiCase rfl
  have hdate : ofTag tag = date ↔ _ := ofTag_eq_iff_eqIgnoringAsciiCase rfl
  refine ⟨hstring, hnumber, hboolean, hdate, ?_⟩
  -- By the four equivalences, a tag that equals none of the words is of none of the four kinds.
  simp only [← Bool.not_eq_true, List.any_cons, List.any_nil, Bool.or_false, Bool.or_eq_true, ← hstring,
    ← hnumber, ← hboolean, ← hdate]
  cases ofTag tag <;> simp

/-- A kind is known by the words that name it. -/
theorem ofTag_congr (h : ∀ kind word, word? kind = some word → (tag.Spells word ↔ tag'.Spells word)) :
    ofTag tag = ofTag tag' := by
  by_cases hkind : ofTag tag = other
  · rw [hkind, ofTag_eq_other]
    intro kind word hword hspells
    rw [← h kind word hword, ← ofTag_eq_iff hword, hkind] at hspells
    simp [← hspells, word?] at hword
  · obtain ⟨word, hword⟩ := exists_word hkind
    exact ((ofTag_eq_iff hword).2 ((h _ word hword).1 ((ofTag_eq_iff hword).1 rfl))).symm

end FieldKind

/-! ## Capitals -/

namespace Text

variable {s word : Text} {kind : FieldKind}

/-- Whether a text spells `string` but for its start, which is a long `s` or a ligature of that and `t`. -/
def ImitatesString (s : Text) : Prop :=
  ∃ (c : Char) (rest : Text), s = c :: rest ∧
    (c = '\u017F' ∧ rest.Spells "tring" ∨ (c = '\uFB05' ∨ c = '\uFB06') ∧ rest.Spells "ring")

theorem ImitatesString.not_spells (h : s.ImitatesString) (hword : kind.word? = some word) :
    ¬s.Spells word := by
  obtain ⟨c, rest, rfl, hc⟩ := h
  obtain ⟨letter, more, rfl, hletter, -⟩ := FieldKind.exists_cons_of_word? hword
  have hforms : ['s', 'n', 'b', 'd'].all (fun letter => ['\u017F', '\uFB05', '\uFB06'].all fun c =>
      c != letter && c != asciiUpper letter) = true := by decide
  simp only [List.all_eq_true, Bool.and_eq_true, bne_iff_ne] at hforms
  have hmem : c ∈ ['\u017F', '\uFB05', '\uFB06'] := by
    rcases hc with ⟨rfl, -⟩ | ⟨rfl | rfl, -⟩ <;> decide
  rw [Spells, List.forall₂_cons]
  rintro ⟨hletter' | hcapital, -⟩
  · exact (hforms letter hletter c hmem).1 hletter'
  · exact (hforms letter hletter c hmem).2 hcapital

theorem spells_string_capitalize_iff :
    s.capitalize.Spells "string" ↔ s.Spells "string" ∨ s.ImitatesString := by
  have hsources : upperSources (asciiUpper 's').toNat = [0xDF, 0xFB05, 0xFB06, 0x73, 0x17F] := by
    decide +kernel
  have hsharp : upperCase '\u00DF' = ['S', 'S'] := by decide +kernel
  have hlong : upperCase '\u017F' = ['S'] := by decide +kernel
  have hlongT : upperCase '\uFB05' = ['S', 'T'] := by decide +kernel
  have hst : upperCase '\uFB06' = ['S', 'T'] := by decide +kernel
  have hs : 's' ∈ plainLetters := by decide
  show s.capitalize.Spells ('s' :: ("tring" : Text)) ↔ _
  rw [spells_capitalize_iff hs, hsources]
  refine or_congr Iff.rfl ⟨?_, ?_⟩
  · rintro ⟨c, rest, rfl, hc, hmem, h⟩
    have hcases : c = '\u00DF' ∨ c = '\uFB05' ∨ c = '\uFB06' ∨ c = 's' ∨ c = '\u017F' := by
      simpa [← Char.toNat_inj] using hmem
    refine ⟨c, rest, rfl, ?_⟩
    rcases hcases with rfl | rfl | rfl | rfl | rfl
    · simp [hsharp, Spells, asciiUpper] at h
    · exact Or.inr ⟨Or.inl rfl, by simpa [hlongT, Spells, asciiUpper] using h⟩
    · exact Or.inr ⟨Or.inr rfl, by simpa [hst, Spells, asciiUpper] using h⟩
    · exact absurd rfl hc
    · exact Or.inl ⟨rfl, by simpa [hlong, Spells, asciiUpper] using h⟩
  · rintro ⟨c, rest, rfl, ⟨rfl, h⟩ | ⟨rfl | rfl, h⟩⟩
    · refine ⟨_, rest, rfl, by decide, by decide, ?_⟩
      simpa [hlong, Spells, asciiUpper] using h
    · refine ⟨_, rest, rfl, by decide, by decide, ?_⟩
      simpa [hlongT, Spells, asciiUpper] using h
    · refine ⟨_, rest, rfl, by decide, by decide, ?_⟩
      simpa [hst, Spells, asciiUpper] using h

/-- Only an `s` can be imitated. -/
theorem spells_capitalize_iff_of_ne_string (hword : kind.word? = some word) (hkind : kind ≠ .string) :
    s.capitalize.Spells word ↔ s.Spells word := by
  have hsources : ['s', 'n', 'b', 'd'].all (fun letter => plainLetters.contains letter &&
      (letter == 's' || upperSources (asciiUpper letter).toNat == [letter.toNat])) = true := by decide +kernel
  simp only [List.all_eq_true, Bool.and_eq_true, Bool.or_eq_true, beq_iff_eq, List.contains_iff_mem] at hsources
  obtain ⟨letter, rest, rfl, hletter, hstring⟩ := FieldKind.exists_cons_of_word? hword
  obtain ⟨hplain, hs | hsource⟩ := hsources letter hletter
  · exact absurd (hstring hs) hkind
  · rw [spells_capitalize_iff hplain, hsource]
    refine or_iff_left ?_
    rintro ⟨c, s, -, hc, hmem, -⟩
    exact hc (Char.toNat_inj.1 (List.mem_singleton.1 hmem))

end Text

/-! ## Schemas and rules -/

namespace FieldSpec

variable {field : FieldSpec} {token : Text}

/-- Whether what a schema says of a field and what its rule says are of the same kind: the type is of the
kind that the field is validated as, it is the word of a kind in some casing exactly if the rule is that of
the kind, and it is that of strings exactly if a default value is quoted. -/
structure Agrees (field : FieldSpec) : Prop where
  kind : FieldKind.ofTag field.schemaType = field.kind
  word : ∀ kind word, FieldKind.word? kind = some word →
    (field.schemaType.Spells word ↔ field.kind.validator = kind.validator)
  quoted : ∀ value, field.default? = some value →
    (field.schemaType.Spells "string" ↔ field.defaultLiteral? = some ('\'' :: value ++ ['\'']))

theorem defaultLiteral?_eq_iff {value : Text} (h : field.default? = some value) :
    field.defaultLiteral? = some ('\'' :: value ++ ['\'']) ↔ field.kind = .string := by
  have hraw : value ≠ '\'' :: value ++ ['\''] := by
    intro e
    have hlength := congrArg List.length e
    simp only [List.length_append, List.length_cons] at hlength
    omega
  rw [defaultLiteral?, h, Option.map_some, Option.some_inj]
  split_ifs with hkind
  · exact iff_of_true rfl hkind
  · exact iff_of_false hraw hkind

theorem agrees_of_kind (h : FieldKind.ofTag field.schemaType = field.kind) : field.Agrees where
  kind := h
  word := fun kind word hword => by rw [← FieldKind.ofTag_eq_iff hword, h, validator_eq_iff]
  quoted := fun value hvalue => by
    have hstring : FieldKind.word? .string = some "string" := rfl
    rw [← FieldKind.ofTag_eq_iff hstring, h, defaultLiteral?_eq_iff hvalue]

theorem kind_parse (token : Text) : (parse token).kind = FieldKind.ofTag (parse token).tag :=
  (wellFormed_parse token).kind

/-- **Schemas and rules agree.** What the schema and the rules say of a field that is read from a token is
of the same kind exactly if its type does not imitate `string`. A type that does is shown as `String`, but
names no kind, so that any value is valid and a default value is not quoted. -/
theorem agrees_iff (token : Text) :
    ((parse token).Agrees ↔ ¬(parse token).tag.ImitatesString) ∧
      ((parse token).tag.ImitatesString →
        (parse token).schemaType.Spells "string" ∧ (parse token).kind = .other ∧
          (parse token).defaultLiteral? = (parse token).default?) ∧
      ∀ kind word, FieldKind.word? kind = some word → kind ≠ .string →
        ((parse token).schemaType.Spells word ↔ (parse token).kind.validator = kind.validator) := by
  have hother (h : (parse token).tag.ImitatesString) : (parse token).kind = .other := by
    rw [kind_parse]
    exact FieldKind.ofTag_eq_other fun kind word hword => h.not_spells hword
  have hstring (h : (parse token).tag.ImitatesString) : (parse token).schemaType.Spells "string" :=
    spells_string_capitalize_iff.2 (Or.inr h)
  refine ⟨⟨fun h himitates => ?_, fun h => ?_⟩, fun h => ⟨hstring h, hother h, ?_⟩, ?_⟩
  · have hword : FieldKind.word? .string = some "string" := rfl
    have hkind := h.kind
    rw [(FieldKind.ofTag_eq_iff hword).2 (hstring himitates), hother himitates] at hkind
    exact absurd hkind (by decide)
  · refine agrees_of_kind ?_
    rw [kind_parse, schemaType]
    refine FieldKind.ofTag_congr fun kind word hword => ?_
    by_cases hkind : kind = .string
    · subst hkind
      obtain rfl := Option.some.inj hword
      rw [spells_string_capitalize_iff, or_iff_left h]
    · exact spells_capitalize_iff_of_ne_string hword hkind
  · rw [defaultLiteral?, hother h]
    simp
  · intro kind word hword hkind
    rw [schemaType, spells_capitalize_iff_of_ne_string hword hkind, ← FieldKind.ofTag_eq_iff hword,
      ← kind_parse, validator_eq_iff]

/-- A type with a long `s` is shown as `String`, and any value is valid. -/
theorem not_agrees_longS :
    (parse "a:\u017Ftring").schemaType = ("String" : Text) ∧
      (parse "a:\u017Ftring").kind.validator = ("joi.any()" : Text) ∧
      FieldKind.ofTag (parse "a:\u017Ftring").schemaType ≠ (parse "a:\u017Ftring").kind := by
  decide +kernel

end FieldSpec

end CrudScaffold
