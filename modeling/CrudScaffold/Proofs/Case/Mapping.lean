import CrudScaffold.Proofs.Case

set_option autoImplicit false

/-! # What the case mappings yield

The tables of the case mappings, read backwards. The plain letters of ASCII are mapped to from their own
two forms only, and what a capital sigma becomes is none of them, so that a text is a word of such letters
in lower case exactly if it spells the word (`Text.lower_eq_iff`). Upper case is not as tidy: the first letter of a word may also come from a long `s`
or a ligature (`Text.spells_capitalize_iff`). A text that a capital changes does not begin with the same
character afterwards, nor with one of those that ASCII has after its capitals (`Text.capitalize_eq_of_cons`,
`Text.capitalize_ne_append`). -/

namespace CrudScaffold

variable {n code : Nat} {runs : List (Nat × Nat × Nat × Nat)} {c d letter : Char} {s word : Text}

/-- The code points that some runs may map to a code point. -/
def runSources (code : Nat) (runs : List (Nat × Nat × Nat × Nat)) : List Nat :=
  runs.filterMap fun (first, last, _, image) =>
    if image ≤ code ∧ code - image ≤ last - first then some (first + (code - image)) else none

theorem mem_runSources (h : runImage? n runs = some code) : n ∈ runSources code runs := by
  induction runs with
  | nil => simp [runImage?] at h
  | cons run runs ih =>
    obtain ⟨first, last, step, image⟩ := run
    rw [runImage?] at h
    simp only [runSources, List.filterMap_cons]
    split at h
    · have hcode := Option.some.inj h
      have hback : first + (code - image) = n := by omega
      rw [if_pos (by omega), hback]
      exact List.mem_cons_self
    · split
      · exact ih h
      · exact List.mem_cons_of_mem _ (ih h)

theorem eq_toNat_of_ofNat (h : Char.ofNat code = d) (hd : d ≠ '\x00') : code = d.toNat := by
  by_cases hcode : code.isValidChar
  · rw [← h, toNat_ofNat hcode]
  · rw [Char.ofNat, dif_neg hcode] at h
    exact absurd h.symm hd

/-- The small letters of ASCII but `k`, to which the sign for kelvin is mapped as well. -/
def plainLetters : Text := "abcdefghijlmnopqrstuvwxyz"

theorem ne_nul_of_plainLetters :
    ∀ letter ∈ plainLetters, letter ≠ '\x00' ∧ Text.asciiUpper letter ≠ '\x00' := by
  have hall : plainLetters.all (fun letter => letter != '\x00' && Text.asciiUpper letter != '\x00') = true := by
    decide +kernel
  simpa using hall

theorem bounds_of_plainLetters : ∀ letter ∈ plainLetters, 'a' ≤ letter ∧ letter ≤ 'z' := by
  have hall : plainLetters.all (fun letter => 'a' ≤ letter && letter ≤ 'z') = true := by decide +kernel
  simpa using hall

/-! ## Lower case -/

theorem lowerCase_plainLetters : ∀ letter ∈ plainLetters,
    lowerCase letter = [letter] ∧ lowerCase (Text.asciiUpper letter) = [letter] ∧
      runSources letter.toNat lowerRuns = [(Text.asciiUpper letter).toNat] := by
  have hall : plainLetters.all (fun letter => lowerCase letter == [letter] &&
      (lowerCase (Text.asciiUpper letter) == [letter] &&
        runSources letter.toNat lowerRuns == [(Text.asciiUpper letter).toNat])) = true := by
    decide +kernel
  simpa using hall

theorem lowerExpansions_spec : ∀ entry ∈ lowerExpansions, ∃ first, entry.2 = [first, 0x307] := by
  simp [lowerExpansions]

/-- A lower-case form is one character, or one with a dot above. -/
theorem exists_lowerCase_eq (c : Char) : ∃ d, lowerCase c = [d] ∨ lowerCase c = [d, '\u0307'] := by
  rcases mapCase_cases lowerExpansions lowerRuns c with ⟨codes, hcodes, heq⟩ | ⟨code, -, heq⟩ | heq
  · obtain ⟨first, hfirst⟩ := lowerExpansions_spec _ hcodes
    have hpair : codes = [first, 0x307] := hfirst
    rw [hpair] at heq
    exact ⟨_, Or.inr heq⟩
  · exact ⟨_, Or.inl heq⟩
  · exact ⟨_, Or.inl heq⟩

theorem source_of_lowerCase (hletter : letter ∈ plainLetters) (h : lowerCase c = [letter]) :
    c = letter ∨ c = Text.asciiUpper letter := by
  obtain ⟨-, -, hsource⟩ := lowerCase_plainLetters letter hletter
  rcases mapCase_cases lowerExpansions lowerRuns c with ⟨codes, hcodes, heq⟩ | ⟨code, hcode, heq⟩ | heq
  · obtain ⟨first, hfirst⟩ := lowerExpansions_spec _ hcodes
    have hpair : codes = [first, 0x307] := hfirst
    rw [lowerCase, heq, hpair] at h
    simp at h
  · rw [lowerCase, heq, List.singleton_inj] at h
    rw [eq_toNat_of_ofNat h (ne_nul_of_plainLetters letter hletter).1] at hcode
    have hmem := mem_runSources hcode
    rw [hsource, List.mem_singleton] at hmem
    exact Or.inr (Char.toNat_inj.1 hmem)
  · rw [lowerCase, heq, List.singleton_inj] at h
    exact Or.inl h

namespace Text

variable {before after : Text}

/-- Whatever stands around it, a character has its own lower-case form, or it is a capital sigma that ends
a word. -/
theorem lowerBetween_cases (before : Text) (c : Char) (after : Text) :
    lowerBetween before c after = lowerCase c ∨
      c = '\u03A3' ∧ lowerBetween before c after = ['\u03C2'] := by
  rw [lowerBetween]
  split
  · next hfinal =>
    simp only [Bool.and_eq_true, beq_iff_eq] at hfinal
    exact Or.inr ⟨hfinal.1.1, rfl⟩
  · exact Or.inl rfl

/-- A sigma that follows a letter ends a word, and one by itself does not. -/
example : lower "\u039F\u03A3 \u03A3" = "\u03BF\u03C2 \u03C3" := by decide +kernel

theorem lowerBetween_ne_nil (before : Text) (c : Char) (after : Text) :
    lowerBetween before c after ≠ [] := by
  obtain ⟨d, hd⟩ := exists_lowerCase_eq c
  rcases lowerBetween_cases before c after with h | ⟨-, h⟩
  · rcases hd with hd | hd <;> simp [h, hd]
  · simp [h]

theorem lowerCase_append_eq_iff (hletter : letter ∈ plainLetters)
    (hword : ∀ letter ∈ word, letter ∈ plainLetters) :
    lowerCase c ++ s = letter :: word ↔ (c = letter ∨ c = asciiUpper letter) ∧ s = word := by
  obtain ⟨hlower, hcapital, -⟩ := lowerCase_plainLetters letter hletter
  constructor
  · intro h
    obtain ⟨d, hd | hd⟩ := exists_lowerCase_eq c
    · rw [hd, List.singleton_append, List.cons.injEq] at h
      rw [h.1] at hd
      exact ⟨source_of_lowerCase hletter hd, h.2⟩
    · -- The dot above is no plain letter, so a character that is mapped to two cannot be the first of a word.
      rw [hd, List.cons_append, List.cons.injEq] at h
      have hdot : '\u0307' ∈ word := by
        rw [← h.2]
        exact List.mem_cons_self
      exact absurd (hword _ hdot) (by decide)
  · rintro ⟨rfl | rfl, rfl⟩
    · rw [hlower, List.singleton_append]
    · rw [hcapital, List.singleton_append]

/-- The step of `lowerAfter_eq_iff`. Neither form of sigma is a plain letter, so that what stands around a
character does not matter. -/
theorem lowerBetween_append_eq_iff (hletter : letter ∈ plainLetters)
    (hword : ∀ letter ∈ word, letter ∈ plainLetters) :
    lowerBetween before c after ++ s = letter :: word ↔
      (c = letter ∨ c = asciiUpper letter) ∧ s = word := by
  rcases lowerBetween_cases before c after with h | ⟨rfl, h⟩
  · rw [h, lowerCase_append_eq_iff hletter hword]
  · have hsigma : lowerCase '\u03A3' = ['\u03C3'] := by decide +kernel
    have hne (form : Char) (hform : form ∉ plainLetters) : [form] ++ s ≠ letter :: word := by
      intro e
      exact hform ((List.cons.inj e).1 ▸ hletter)
    rw [← lowerCase_append_eq_iff hletter hword, h, hsigma]
    exact iff_of_false (hne _ (by decide)) (hne _ (by decide))

theorem lowerAfter_eq_iff (hword : ∀ letter ∈ word, letter ∈ plainLetters) :
    lowerAfter before s = word ↔ s.Spells word := by
  induction word generalizing before s with
  | nil =>
    cases s with
    | nil => simp [lowerAfter, Spells]
    | cons c s => simp [lowerAfter, Spells, lowerBetween_ne_nil]
  | cons letter word ih =>
    rw [List.forall_mem_cons] at hword
    cases s with
    | nil => simp [lowerAfter, Spells]
    | cons c s =>
      rw [lowerAfter, lowerBetween_append_eq_iff hword.1 hword.2, ih hword.2, Spells, Spells,
        List.forall₂_cons]

/-- A text has a word of plain letters as its lower-case form exactly if it spells the word. -/
theorem lower_eq_iff (hword : ∀ letter ∈ word, letter ∈ plainLetters) :
    s.lower = word ↔ s.Spells word := lowerAfter_eq_iff hword

end Text

/-! ## Upper case -/

/-- The code points whose upper-case form begins with a code point that they are not themselves. -/
def upperSources (code : Nat) : List Nat :=
  (upperExpansions.filter fun entry => entry.2.head? == some code).map Prod.fst ++
    runSources code upperRuns

theorem upperCase_plainLetters : ∀ letter ∈ plainLetters,
    upperCase letter = [Text.asciiUpper letter] ∧
      upperCase (Text.asciiUpper letter) = [Text.asciiUpper letter] ∧
      upperSources letter.toNat = [] := by
  have hall : plainLetters.all (fun letter => upperCase letter == [Text.asciiUpper letter] &&
      (upperCase (Text.asciiUpper letter) == [Text.asciiUpper letter] &&
        upperSources letter.toNat == [])) = true := by
    decide +kernel
  simpa using hall

theorem upperExpansions_ne_nil : ∀ entry ∈ upperExpansions, entry.2 ≠ [] := by decide +kernel

theorem upperCase_ne_nil (c : Char) : upperCase c ≠ [] := by
  rcases mapCase_cases upperExpansions upperRuns c with ⟨codes, hcodes, heq⟩ | ⟨code, -, heq⟩ | heq
  · rw [upperCase, heq]
    simpa using upperExpansions_ne_nil _ hcodes
  · simp [upperCase, heq]
  · simp [upperCase, heq]

theorem source_of_upperCase (hd : d ≠ '\x00') (h : upperCase c = d :: s) :
    c = d ∨ c.toNat ∈ upperSources d.toNat := by
  rw [upperSources, List.mem_append]
  rcases mapCase_cases upperExpansions upperRuns c with ⟨codes, hcodes, heq⟩ | ⟨code, hcode, heq⟩ | heq
  · rw [upperCase, heq, List.map_eq_cons_iff] at h
    obtain ⟨first, rest, hcons, hfirst, -⟩ := h
    refine Or.inr (Or.inl (List.mem_map.2 ⟨_, List.mem_filter.2 ⟨hcodes, ?_⟩, rfl⟩))
    simp [hcons, eq_toNat_of_ofNat hfirst hd]
  · rw [upperCase, heq, List.cons.injEq] at h
    rw [eq_toNat_of_ofNat h.1 hd] at hcode
    exact Or.inr (Or.inr (mem_runSources hcode))
  · rw [upperCase, heq, List.cons.injEq] at h
    exact Or.inl h.1

namespace Text

/-- With a capital a text spells the same words as before, and those whose first letter comes from a
character that is no form of it. -/
theorem spells_capitalize_iff (hletter : letter ∈ plainLetters) :
    s.capitalize.Spells (letter :: word) ↔ s.Spells (letter :: word) ∨
      ∃ c rest, s = c :: rest ∧ c ≠ letter ∧ c.toNat ∈ upperSources (asciiUpper letter).toNat ∧
        (upperCase c ++ rest).Spells (letter :: word) := by
  obtain ⟨hlower, hcapital, hsources⟩ := upperCase_plainLetters letter hletter
  cases s with
  | nil => simp [capitalize, Spells]
  | cons c s =>
    rw [capitalize]
    -- Both forms of the letter have its capital as their upper-case form.
    have hforms (hc : c = letter ∨ c = asciiUpper letter) :
        (upperCase c ++ s).Spells (letter :: word) ↔ Spells (c :: s) (letter :: word) := by
      have hupper : upperCase c = [asciiUpper letter] := by rcases hc with rfl | rfl <;> assumption
      simp [hupper, Spells, hc]
    constructor
    · intro h
      obtain ⟨d, image, himage⟩ := List.exists_cons_of_ne_nil (upperCase_ne_nil c)
      have hfirst := h
      rw [himage, List.cons_append, Spells, List.forall₂_cons] at hfirst
      obtain ⟨hd | hd, -⟩ := hfirst
      · rcases source_of_upperCase (hd ▸ (ne_nul_of_plainLetters letter hletter).1) himage with hc | hc
        · exact Or.inl ((hforms (Or.inl (hc.trans hd))).1 h)
        · simp [hd, hsources] at hc
      · rcases source_of_upperCase (hd ▸ (ne_nul_of_plainLetters letter hletter).2) himage with hc | hc
        · exact Or.inl ((hforms (Or.inr (hc.trans hd))).1 h)
        · by_cases hsame : c = letter
          · exact Or.inl ((hforms (Or.inl hsame)).1 h)
          · exact Or.inr ⟨c, s, rfl, hsame, hd ▸ hc, h⟩
    · rintro (h | ⟨other, rest, hs, -, -, h⟩)
      · rw [Spells, List.forall₂_cons] at h
        exact (hforms h.1).2 (List.forall₂_cons.2 h)
      · obtain ⟨rfl, rfl⟩ := List.cons.inj hs
        exact h

end Text

/-! ## Texts that a capital changes -/

/-- Whether a character is one of those that stand after the capital letters in ASCII. -/
def followsCapitals (c : Char) : Bool := 0x5B ≤ c.toNat && c.toNat < 0x80

theorem upperSources_eq_nil : ∀ code < 0x80, 0x5B ≤ code → upperSources code = [] := by decide +kernel

theorem eq_of_upperCase (h : upperCase c = d :: s) (hd : followsCapitals d = true) : c = d := by
  have hnul : d ≠ '\x00' := by
    rintro rfl
    exact absurd hd (by decide)
  rw [followsCapitals, Bool.and_eq_true, decide_eq_true_eq, decide_eq_true_eq] at hd
  simpa [upperSources_eq_nil d.toNat hd.2 hd.1] using source_of_upperCase hnul h

theorem upperRuns_ne : ∀ run ∈ upperRuns, 0 < run.1 ∧ run.2.2.2 ≠ run.1 := by decide +kernel

theorem upperExpansions_head?_ne : ∀ entry ∈ upperExpansions, 0 < entry.1 ∧ entry.2.head? ≠ some entry.1 := by
  decide +kernel

theorem ne_of_runImage? (hruns : ∀ run ∈ runs, 0 < run.1 ∧ run.2.2.2 ≠ run.1) (h : runImage? n runs = some code) :
    0 < n ∧ code ≠ n := by
  induction runs with
  | nil => simp [runImage?] at h
  | cons run runs ih =>
    obtain ⟨first, last, step, image⟩ := run
    rw [List.forall_mem_cons] at hruns
    rw [runImage?] at h
    split at h
    · have himage : 0 < first ∧ image ≠ first := hruns.1
      have hcode := Option.some.inj h
      omega
    · exact ih hruns.2 h

/-- An upper-case form that begins with the character itself is the character. -/
theorem eq_nil_of_upperCase (h : upperCase c = c :: s) : s = [] := by
  have hcode (code : Nat) (hpos : 0 < c.toNat) (heq : Char.ofNat code = c) : code = c.toNat := by
    refine eq_toNat_of_ofNat heq ?_
    rintro rfl
    exact absurd hpos (by decide)
  rcases mapCase_cases upperExpansions upperRuns c with ⟨codes, hcodes, heq⟩ | ⟨code, hrun, heq⟩ | heq
  · obtain ⟨hpos, hne⟩ := upperExpansions_head?_ne _ hcodes
    rw [upperCase, heq, List.map_eq_cons_iff] at h
    obtain ⟨first, rest, hcons, hfirst, -⟩ := h
    exact absurd (by rw [hcons, hcode first hpos hfirst]; rfl) hne
  · obtain ⟨hpos, hne⟩ := ne_of_runImage? upperRuns_ne hrun
    rw [upperCase, heq, List.cons.injEq] at h
    exact absurd (hcode code hpos h.1) hne
  · rw [upperCase, heq, List.cons.injEq] at h
    exact h.2.symm

namespace Text

theorem capitalize_eq_iff : capitalize (c :: s) = c :: s ↔ upperCase c = [c] := by
  rw [capitalize, ← List.singleton_append, List.append_left_inj]

theorem capitalize_eq_of_cons {t : Text} (h : s.capitalize = d :: t) (hd : followsCapitals d = true) :
    s.capitalize = s := by
  cases s with
  | nil => rfl
  | cons c s =>
    obtain ⟨first, image, himage⟩ := List.exists_cons_of_ne_nil (upperCase_ne_nil c)
    rw [capitalize, himage, List.cons_append, List.cons.injEq] at h
    rw [h.1] at himage
    obtain rfl := eq_of_upperCase himage hd
    rw [capitalize_eq_iff, himage, eq_nil_of_upperCase himage]

theorem capitalize_ne_append (s : Text) (d : Char) : s.capitalize ≠ s ++ [d] := by
  intro h
  cases s with
  | nil => simp [capitalize] at h
  | cons c s =>
    obtain ⟨first, image, himage⟩ := List.exists_cons_of_ne_nil (upperCase_ne_nil c)
    rw [capitalize, himage, List.cons_append, List.cons_append, List.cons.injEq] at h
    rw [h.1] at himage
    rw [eq_nil_of_upperCase himage, List.nil_append] at h
    have hlength := congrArg List.length h.2
    simp at hlength

end Text

end CrudScaffold
