import CrudScaffold.Proofs.Settings.Layering
import CrudScaffold.Proofs.Template
import Mathlib.Data.List.TakeWhile

set_option autoImplicit false

/-! # Values of variables

The text of a variable is read as a value. A text without blanks at its ends stands for itself, unless it is
written as something else: as a boolean, a number, or as a whole between quotation marks, brackets or braces
(`Environment.text?_parseValue_eq_some_iff`). What stands between quotation marks is shorter than what is
written, so a quoted text never stands for itself. -/

namespace CrudScaffold

/-! ## Texts without blanks at their ends -/

theorem isBlank_of_isAsciiBlank {c : Char} (h : isAsciiBlank c = true) : isBlank c = true := by
  simp only [isAsciiBlank, Bool.or_eq_true, beq_iff_eq] at h
  obtain (((rfl | rfl) | rfl) | rfl) | rfl := h <;> decide

namespace Text

variable {s a b : Text} {c : Char}

theorem eq_false_of_dropWhile_eq_self {p : Char → Bool} (h : s.dropWhile p = s) (hc : c ∈ s.head?) :
    p c = false := by
  cases s with
  | nil => cases hc
  | cons d s =>
    obtain rfl := Option.some.inj hc
    exact Bool.eq_false_iff.2 (List.dropWhile_eq_self_iff.1 h (Nat.zero_lt_succ _))

theorem dropWhile_eq_self_of_trim (h : trim s = s) :
    s.dropWhile CrudScaffold.isBlank = s ∧ s.reverse.dropWhile CrudScaffold.isBlank = s.reverse := by
  have hshort := (List.dropWhile_suffix CrudScaffold.isBlank (l := s)).length_le
  have hshort' := (List.dropWhile_suffix CrudScaffold.isBlank
    (l := (s.dropWhile CrudScaffold.isBlank).reverse)).length_le
  have hlength := congrArg List.length h
  rw [trim, List.length_reverse] at hlength
  rw [List.length_reverse] at hshort'
  have hstart : s.dropWhile CrudScaffold.isBlank = s := (List.dropWhile_suffix _).eq_of_length (by omega)
  rw [trim, hstart] at h
  exact ⟨hstart, by rw [← List.reverse_reverse (List.dropWhile _ _), h]⟩

/-- No blanks are dropped at the start of such a text. -/
theorem dropWhile_isAsciiBlank (h : trim s = s) : s.dropWhile isAsciiBlank = s := by
  rw [List.dropWhile_eq_self_iff]
  intro hs hblank
  have hno := eq_false_of_dropWhile_eq_self (dropWhile_eq_self_of_trim h).1
    (List.head?_eq_getElem? ▸ List.getElem?_eq_getElem hs)
  rw [isBlank_of_isAsciiBlank hblank] at hno
  cases hno

/-- No end of such a text consists of blanks. -/
theorem eq_nil_of_dropWhile_isAsciiBlank (h : trim (a ++ b) = a ++ b) (hb : b.dropWhile isAsciiBlank = []) :
    b = [] := by
  obtain rfl | ⟨b, c, rfl⟩ := List.eq_nil_or_concat b
  · rfl
  · have hno := eq_false_of_dropWhile_eq_self (c := c) (dropWhile_eq_self_of_trim h).2 (by simp)
    rw [isBlank_of_isAsciiBlank (List.dropWhile_eq_nil_iff.1 hb c (by simp))] at hno
    cases hno

end Text

/-! ## Quotations -/

namespace Toml

theorem eq_some_of_consText {c : Char} {found : Option (Text × Text)} {text rest : Text}
    (h : consText c found = some (text, rest)) : ∃ later, found = some (later, rest) ∧ text = c :: later := by
  cases found with
  | none => cases h
  | some found =>
    obtain ⟨rfl, rfl⟩ := Prod.mk.inj (Option.some.inj h)
    exact ⟨found.1, rfl, rfl⟩

/-- No escape is shorter than what it stands for. -/
theorem length_lt_of_basic {s text rest : Text} (h : basic s = some (text, rest)) : text.length < s.length := by
  fun_induction basic s generalizing text with
  | case1 =>
    obtain ⟨rfl, -⟩ := Prod.mk.inj (Option.some.inj h)
    exact Nat.zero_lt_succ _
  | case2 _ _ _ _ _ _ _ ih | case4 _ _ _ _ _ _ _ _ _ _ _ ih | case6 _ _ _ _ _ _ ih | case8 _ _ _ _ _ _ _ ih =>
    obtain ⟨later, hlater, rfl⟩ := eq_some_of_consText h
    have hlength := ih hlater
    simp only [List.length_cons]
    omega
  | _ => cases h

end Toml

namespace Environment

theorem length_takeBytes_le (n : Nat) (s : Text) : (Text.takeBytes n s).length ≤ s.length := by
  induction s generalizing n with
  | nil => simp [Text.takeBytes]
  | cons c s ih =>
    rw [Text.takeBytes]
    split
    · simpa using ih _
    · exact Nat.zero_le _

theorem length_le_of_quotation? {s text rest : Text} (h : quotation? s = some (text, rest)) :
    text.length ≤ s.length := by
  unfold quotation? at h
  dsimp only at h
  split at h
  · obtain ⟨⟨found, after⟩, hbasic, hpair⟩ := Option.map_eq_some_iff.1 h
    obtain ⟨rfl, rfl⟩ := Prod.mk.inj hpair
    have hlength := Toml.length_lt_of_basic hbasic
    have hplain := (List.takeWhile_prefix (fun c => c != '"' && c != '\\') (l := s)).length_le
    have htake := length_takeBytes_le (s.takeWhile fun c => c != '"' && c != '\\').length
      (s.takeWhile fun c => c != '"' && c != '\\')
    simp only [List.length_append, List.length_drop]
    omega
  · exact (Toml.length_lt_of_basic h).le

/-! ## Numbers -/

variable {s rest word text : Text} {value : Setting} {depth : Nat} {c : Char}

/-- Whether a word is a number. -/
def isNumber (word : Text) : Bool :=
  (if '.' ∈ word then Numeral.read? word else none).isSome || (Text.unsigned? word).isSome ||
    (signed? word).isSome

theorem ofWord_eq_text_iff : ofWord word = .text text ↔ isNumber word = false ∧ word = text := by
  unfold ofWord isNumber
  dsimp only
  split
  · next hreal => simp [hreal]
  · next hreal hunsigned => simp [hreal, hunsigned]
  · next hreal hunsigned hsigned => simp [hreal, hunsigned, hsigned]
  · next hreal hunsigned hsigned => simp [hreal, hunsigned, hsigned]

/-- Whether a character can stand in a number. -/
def isNumeric (c : Char) : Bool := c.isDigit || ("+-.eE" : Text).contains c

theorem mem_takeSign (hc : c ∈ s) : isNumeric c = true ∨ c ∈ (Text.takeSign s).2 := by
  unfold Text.takeSign
  split
  · obtain rfl | hc := List.mem_cons.1 hc
    · exact .inl rfl
    · exact .inr hc
  · obtain rfl | hc := List.mem_cons.1 hc
    · exact .inl rfl
    · exact .inr hc
  · exact .inr hc

theorem isNumeric_of_isDigit (h : c.isDigit = true) : isNumeric c = true := by
  rw [isNumeric, h, Bool.true_or]

theorem isNumeric_of_readExponent? (h : (Numeral.readExponent? s).isSome = true) (hc : c ∈ s) :
    isNumeric c = true := by
  cases s with
  | nil => cases hc
  | cons d s =>
    simp only [Numeral.readExponent?] at h
    split at h
    · next hmark =>
      split at h
      · cases h
      · next hdigits =>
        obtain rfl | hc := List.mem_cons.1 hc
        · obtain rfl | rfl := hmark <;> rfl
        · obtain hsign | hc := mem_takeSign hc
          · exact hsign
          · simp only [not_or, Bool.not_eq_true', Bool.not_eq_false] at hdigits
            exact isNumeric_of_isDigit (List.all_eq_true.1 hdigits.2 c hc)
    · cases h

theorem mem_takeWhile_or_mem_dropWhile (p : Char → Bool) (hc : c ∈ s) :
    p c = true ∨ c ∈ s.dropWhile p := by
  rw [← List.takeWhile_append_dropWhile (p := p) (l := s), List.mem_append] at hc
  exact hc.imp_left List.mem_takeWhile_imp

theorem isNumeric_of_read? (h : (Numeral.read? s).isSome = true) (hc : c ∈ s) : isNumeric c = true := by
  rw [Numeral.read?, Option.isSome_map] at h
  unfold Numeral.parts? at h
  dsimp only at h
  obtain hsign | hc := mem_takeSign hc
  · exact hsign
  obtain hdigit | hc := mem_takeWhile_or_mem_dropWhile Char.isDigit hc
  · exact isNumeric_of_isDigit hdigit
  split at h
  · next fraction hdrop =>
    split at h
    · cases h
    · rw [Option.isSome_map] at h
      rw [hdrop, List.mem_cons] at hc
      obtain rfl | hc := hc
      · rfl
      obtain hdigit | hc := mem_takeWhile_or_mem_dropWhile Char.isDigit hc
      · exact isNumeric_of_isDigit hdigit
      · exact isNumeric_of_readExponent? h hc
  · split at h
    · cases h
    · rw [Option.isSome_map] at h
      exact isNumeric_of_readExponent? h hc

theorem isNumeric_of_unsigned? (h : (Text.unsigned? s).isSome = true) (hc : c ∈ s) : isNumeric c = true := by
  unfold Text.unsigned? at h
  dsimp only at h
  split at h
  · split at h
    · next hdigits =>
      obtain rfl | hc := List.mem_cons.1 hc
      · rfl
      · exact isNumeric_of_isDigit (List.all_eq_true.1 hdigits.2.1 c hc)
    · cases h
  · split at h
    · next hdigits => exact isNumeric_of_isDigit (List.all_eq_true.1 hdigits.2.1 c hc)
    · cases h

theorem isNumeric_of_signed? (h : (signed? s).isSome = true) (hc : c ∈ s) : isNumeric c = true := by
  unfold signed? at h
  split at h
  · split at h
    · next hdigits =>
      obtain rfl | hc := List.mem_cons.1 hc
      · rfl
      · exact isNumeric_of_isDigit (List.all_eq_true.1 hdigits.2.1 c hc)
    · cases h
  · cases h

/-- A number is written with digits, signs, points and the mark of an exponent. -/
theorem isNumeric_of_isNumber (h : isNumber s = true) (hc : c ∈ s) : isNumeric c = true := by
  rw [isNumber, Bool.or_eq_true, Bool.or_eq_true] at h
  obtain (hreal | hunsigned) | hsigned := h
  · split at hreal
    · exact isNumeric_of_read? hreal hc
    · cases hreal
  · exact isNumeric_of_unsigned? hunsigned hc
  · exact isNumeric_of_signed? hsigned hc

theorem isNumber_eq_false (hc : c ∈ s) (h : isNumeric c = false) : isNumber s = false := by
  rw [Bool.eq_false_iff]
  intro hnumber
  rw [isNumeric_of_isNumber hnumber hc] at h
  cases h

theorem isSeparator_eq_false (h : isNumeric c = true) : isSeparator c = false := by
  rw [Bool.eq_false_iff]
  intro hseparator
  simp only [isSeparator, Bool.or_eq_true, beq_iff_eq] at hseparator
  obtain (((rfl | rfl) | rfl) | rfl) | rfl := hseparator <;> cases h

/-! ## Values as a whole -/

/-- Whether a character opens a value that its end closes. -/
def isOpening (c : Char) : Bool := c == '"' || c == '\'' || c == '[' || c == '\x7b'

/-- Whether a text is, up to its end, something between quotation marks, brackets or braces. -/
def isEnclosed (s : Text) : Bool :=
  s.head?.any isOpening && (value? (s.length + 1) s).any fun found => found.2.isEmpty

/-- Whether a text is written as a value of its own: a boolean, a number or something enclosed. -/
def isTyped (s : Text) : Bool :=
  s == ("true" : Text) || s == ("false" : Text) || isNumber s || isEnclosed s

theorem text?_scalar (value : Scalar) :
    (scalar value).text? = some text ↔ value = .text text := by
  cases value <;> simp [scalar, Setting.text?]

theorem text?_parseValue (s : Text) :
    (parseValue s).text? =
      match value? (s.length + 1) s with
      | some (value, []) => value.text?
      | _ => some s := by
  unfold parseValue
  rcases value? (s.length + 1) s with _ | ⟨value, _ | ⟨c, rest⟩⟩ <;> rfl

/-- What is enclosed is shorter than what encloses it. -/
theorem text?_ne_of_opening (hopening : s.head?.any isOpening = true) (hdrop : s.dropWhile isAsciiBlank = s)
    (h : value? (depth + 1) s = some (value, rest)) : value.text? ≠ some s := by
  unfold value? at h
  simp only [hdrop] at h
  obtain ⟨⟨found, after⟩, hfound, hpair⟩ := Option.map_eq_some_iff.1 h
  obtain ⟨rfl, -⟩ := Prod.mk.inj hpair
  -- A table and a list are no texts, and a quoted text or character lacks at least the marks.
  split at hfound
  · obtain ⟨entries, -, hvalue⟩ := Option.map_eq_some_iff.1 hfound
    obtain ⟨rfl, -⟩ := Prod.mk.inj hvalue
    nofun
  · obtain ⟨items, -, hvalue⟩ := Option.map_eq_some_iff.1 hfound
    obtain ⟨rfl, -⟩ := Prod.mk.inj hvalue
    nofun
  · obtain ⟨⟨quoted, tail⟩, hquoted, hvalue⟩ := Option.map_eq_some_iff.1 hfound
    obtain ⟨rfl, -⟩ := Prod.mk.inj hvalue
    rw [Ne, text?_scalar, Scalar.text.injEq]
    rintro rfl
    have hlength := length_le_of_quotation? hquoted
    rw [List.length_cons] at hlength
    omega
  · obtain ⟨rfl, -⟩ := Prod.mk.inj (Option.some.inj hfound)
    rw [Ne, text?_scalar, Scalar.text.injEq]
    nofun
  · cases hfound
  · next hbrace hbracket hquote hcharacter hmark =>
    cases s with
    | nil => cases hopening
    | cons c s =>
      simp only [List.head?_cons, Option.any_some, isOpening, Bool.or_eq_true, beq_iff_eq] at hopening
      obtain ((rfl | rfl) | rfl) | rfl := hopening
      · exact absurd rfl (hquote s)
      · exact absurd rfl (hmark s)
      · exact absurd rfl (hbracket s)
      · exact absurd rfl (hbrace s)

/-- What is not enclosed is a boolean or a word up to a separator. -/
theorem value?_of_not_opening (depth : Nat) (hopening : s.head?.any isOpening = false)
    (hdrop : s.dropWhile isAsciiBlank = s) :
    value? (depth + 1) s =
      match Text.dropStart? "true" s, Text.dropStart? "false" s with
      | some rest, _ => some (scalar (.bool true), rest.dropWhile isAsciiBlank)
      | none, some rest => some (scalar (.bool false), rest.dropWhile isAsciiBlank)
      | none, none =>
        some (scalar (ofWord (Text.trim (s.takeWhile fun c => !isSeparator c))),
          (s.dropWhile fun c => !isSeparator c).dropWhile isAsciiBlank) := by
  unfold value?
  simp only [hdrop]
  split
  · cases hopening
  · cases hopening
  · cases hopening
  · cases hopening
  · cases hopening
  · cases Text.dropStart? "true" s <;> cases Text.dropStart? "false" s <;> rfl

/-- A value that something follows is none. -/
theorem text?_parseValue_of_append {start : Text} (hs : Text.trim s = s) (hsplit : s = start ++ rest)
    (hvalue : value? (s.length + 1) s = some (value, rest.dropWhile isAsciiBlank)) :
    (parseValue s).text? = if rest = [] then value.text? else some s := by
  rw [text?_parseValue, hvalue]
  split
  · next whole hwhole =>
    obtain ⟨rfl, hblank⟩ := Prod.mk.inj (Option.some.inj hwhole)
    rw [if_pos (Text.eq_nil_of_dropWhile_isAsciiBlank (hsplit ▸ hs) hblank)]
  · next hpart =>
    rw [if_neg]
    rintro rfl
    exact hpart value rfl

theorem text?_parseValue_of_bool {b : Bool} {start : Text} (hs : Text.trim s = s) (hsplit : s = start ++ rest)
    (hvalue : value? (s.length + 1) s = some (scalar (.bool b), rest.dropWhile isAsciiBlank)) :
    (parseValue s).text? = some s ↔ s ≠ start := by
  have hshort : s = start ↔ rest = [] := by rw [hsplit, List.append_right_eq_self]
  rw [text?_parseValue_of_append hs hsplit hvalue, Ne, hshort]
  split
  · next hrest => exact ⟨nofun, fun h => absurd hrest h⟩
  · next hrest => exact ⟨fun _ => hrest, fun _ => rfl⟩

theorem text?_parseValue_of_not_opening (hs : Text.trim s = s) (hopening : s.head?.any isOpening = false) :
    (parseValue s).text? = some s ↔
      s ≠ ("true" : Text) ∧ s ≠ ("false" : Text) ∧ isNumber s = false := by
  have hvalue := value?_of_not_opening s.length hopening (Text.dropWhile_isAsciiBlank hs)
  split at hvalue
  · next rest htrue =>
    have hsplit := Text.eq_append_of_dropStart? htrue
    have hfalse : s ≠ ("false" : Text) := by
      rintro rfl
      cases htrue
    have hnumber : isNumber s = false := isNumber_eq_false (c := 't') (by simp [hsplit]) rfl
    rw [text?_parseValue_of_bool hs hsplit hvalue]
    exact ⟨fun htrue => ⟨htrue, hfalse, hnumber⟩, fun h => h.1⟩
  · next rest hnot hfalse =>
    have hsplit := Text.eq_append_of_dropStart? hfalse
    have htrue : s ≠ ("true" : Text) := by
      rintro rfl
      cases hnot
    have hnumber : isNumber s = false := isNumber_eq_false (c := 'f') (by simp [hsplit]) rfl
    rw [text?_parseValue_of_bool hs hsplit hvalue]
    exact ⟨fun hfalse => ⟨htrue, hfalse, hnumber⟩, fun h => h.2.1⟩
  · next hnottrue hnotfalse =>
    have htrue : s ≠ ("true" : Text) := by
      rintro rfl
      cases hnottrue
    have hfalse : s ≠ ("false" : Text) := by
      rintro rfl
      cases hnotfalse
    have hsplit := (List.takeWhile_append_dropWhile (p := fun c => !isSeparator c) (l := s)).symm
    rw [text?_parseValue_of_append hs hsplit hvalue]
    split
    · next hrest =>
      have hword : s.takeWhile (fun c => !isSeparator c) = s := by
        rw [hrest, List.append_nil] at hsplit
        exact hsplit.symm
      rw [text?_scalar, hword, hs, ofWord_eq_text_iff]
      exact ⟨fun h => ⟨htrue, hfalse, h.1⟩, fun h => ⟨h.2.2, rfl⟩⟩
    · next hrest =>
      have hnumber : isNumber s = false := Bool.eq_false_iff.2 fun hnumber =>
        hrest (List.dropWhile_eq_nil_iff.2 fun c hc => by
          rw [isSeparator_eq_false (isNumeric_of_isNumber hnumber hc), Bool.not_false])
      exact ⟨fun _ => ⟨htrue, hfalse, hnumber⟩, fun _ => rfl⟩

theorem text?_parseValue_of_opening (hs : Text.trim s = s) (hopening : s.head?.any isOpening = true) :
    (parseValue s).text? = some s ↔ isEnclosed s = false := by
  have hshorter : ∀ value, value? (s.length + 1) s = some (value, []) → value.text? ≠ some s :=
    fun _ => text?_ne_of_opening hopening (Text.dropWhile_isAsciiBlank hs)
  rw [text?_parseValue, isEnclosed, hopening, Bool.true_and]
  split
  · next value hwhole => exact ⟨fun h => absurd h (hshorter value hwhole), fun h => by simp [hwhole] at h⟩
  · next hpart =>
    refine ⟨fun _ => Bool.eq_false_iff.2 fun hwhole => ?_, fun _ => rfl⟩
    obtain ⟨⟨value, rest⟩, hvalue, hrest⟩ := (Option.any_eq_true _ _).1 hwhole
    obtain rfl := List.isEmpty_iff.1 hrest
    exact hpart value hvalue

/-- Something enclosed is no boolean and no number. -/
theorem isTyped_of_opening (hopening : s.head?.any isOpening = true) : isTyped s = isEnclosed s := by
  cases s with
  | nil => cases hopening
  | cons c s =>
    have hnumeric : isNumeric c = false := by
      simp only [List.head?_cons, Option.any_some, isOpening, Bool.or_eq_true, beq_iff_eq] at hopening
      obtain ((rfl | rfl) | rfl) | rfl := hopening <;> rfl
    have htrue : c :: s ≠ ("true" : Text) := by
      rintro h
      obtain ⟨rfl, rfl⟩ := List.cons.inj h
      cases hopening
    have hfalse : c :: s ≠ ("false" : Text) := by
      rintro h
      obtain ⟨rfl, rfl⟩ := List.cons.inj h
      cases hopening
    rw [isTyped, beq_eq_false_iff_ne.2 htrue, beq_eq_false_iff_ne.2 hfalse,
      isNumber_eq_false List.mem_cons_self hnumeric]
    rfl

/-- **Texts that stand for themselves.** A text without blanks at its ends is read as itself unless it is
written as a value of its own. -/
theorem text?_parseValue_eq_some_iff (hs : Text.trim s = s) :
    (parseValue s).text? = some s ↔ isTyped s = false := by
  cases hopening : s.head?.any isOpening with
  | false => simpa [isTyped, isEnclosed, hopening, and_assoc] using text?_parseValue_of_not_opening hs hopening
  | true => rw [text?_parseValue_of_opening hs hopening, isTyped_of_opening hopening]

example : isTyped "1.5" = true ∧ isTyped "1.5.2" = false ∧ isTyped "[a,b]" = true ∧ isTyped "[a]b" = false := by
  decide +kernel

end Environment

end CrudScaffold
