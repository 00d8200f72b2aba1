import CrudScaffold.Text.Case
import Mathlib.Data.List.Forall2

set_option autoImplicit false

/-! # Capital letters

A capital letter made from another character never is one of the characters before the capital `A` of
ASCII (`mem_upperCase`), so that making one adds no blank, quotation mark or separator to a text. Up to
the case of ASCII letters a text equals a word in lower case if it spells that word letter by letter
(`Text.eqIgnoringAsciiCase_iff`). -/

namespace CrudScaffold

theorem toNat_ofNat {n : Nat} (h : n.isValidChar) : (Char.ofNat n).toNat = n := by
  rw [Char.ofNat, dif_pos h]
  rfl

/-- Whether a character is one of those that stand before the letters in ASCII. -/
def precedesLetters (c : Char) : Bool := 0 < c.toNat && c.toNat < 0x41

theorem precedesLetters_ofNat {n : Nat} (h : 0x41 ≤ n) : precedesLetters (Char.ofNat n) = false := by
  by_cases hn : n.isValidChar
  · rw [precedesLetters, toNat_ofNat hn]
    simp
    omega
  · rw [Char.ofNat, dif_neg hn]
    decide

theorem le_of_runImage? {n code : Nat} {runs : List (Nat × Nat × Nat × Nat)}
    (hruns : ∀ run ∈ runs, 0x41 ≤ run.2.2.2) (h : runImage? n runs = some code) : 0x41 ≤ code := by
  induction runs with
  | nil => simp [runImage?] at h
  | cons run runs ih =>
    obtain ⟨first, last, step, image⟩ := run
    rw [List.forall_mem_cons] at hruns
    rw [runImage?] at h
    split at h
    · have himage : 0x41 ≤ image := hruns.1
      have hcode := Option.some.inj h
      omega
    · exact ih hruns.2 h

theorem upperRuns_ge : ∀ run ∈ upperRuns, 0x41 ≤ run.2.2.2 := by decide +kernel

theorem upperExpansions_ge : ∀ entry ∈ upperExpansions, ∀ code ∈ entry.2, 0x41 ≤ code := by
  decide +kernel

/-- A character is mapped to the image of its entry, to that of the run that covers it, or to itself. -/
theorem mapCase_cases (expansions : List (Nat × List Nat)) (runs : List (Nat × Nat × Nat × Nat)) (c : Char) :
    (∃ codes, (c.toNat, codes) ∈ expansions ∧ mapCase expansions runs c = codes.map Char.ofNat) ∨
      (∃ code, runImage? c.toNat runs = some code ∧ mapCase expansions runs c = [Char.ofNat code]) ∨
      mapCase expansions runs c = [c] := by
  rw [mapCase]
  split
  · next codes hcodes =>
    obtain ⟨before, after, hsplit, -⟩ := List.lookup_eq_some_iff.1 hcodes
    refine Or.inl ⟨codes, ?_, rfl⟩
    rw [hsplit]
    exact List.mem_append_right before List.mem_cons_self
  · split
    · next code hcode => exact Or.inr (Or.inl ⟨code, hcode, rfl⟩)
    · exact Or.inr (Or.inr rfl)

/-- The characters that a character has as its upper-case form. -/
theorem mem_upperCase {c d : Char} (h : d ∈ upperCase c) : d = c ∨ precedesLetters d = false := by
  rcases mapCase_cases upperExpansions upperRuns c with ⟨codes, hcodes, heq⟩ | ⟨code, hcode, heq⟩ | heq
  · rw [upperCase, heq] at h
    obtain ⟨code, hmem, rfl⟩ := List.mem_map.1 h
    exact Or.inr (precedesLetters_ofNat (upperExpansions_ge _ hcodes code hmem))
  · rw [upperCase, heq, List.mem_singleton] at h
    rw [h]
    exact Or.inr (precedesLetters_ofNat (le_of_runImage? upperRuns_ge hcode))
  · rw [upperCase, heq, List.mem_singleton] at h
    exact Or.inl h

namespace Text

theorem mem_capitalize {s : Text} {d : Char} (h : d ∈ s.capitalize) : d ∈ s ∨ precedesLetters d = false := by
  cases s with
  | nil => simp [capitalize] at h
  | cons c s =>
    rcases List.mem_append.1 h with h | h
    · refine (mem_upperCase h).imp_left fun e => ?_
      rw [e]
      exact List.mem_cons_self
    · exact Or.inl (List.mem_cons_of_mem c h)

/-- Such a character that is not in a text is not in it with a capital either. -/
theorem notMem_capitalize {s : Text} {d : Char} (hd : precedesLetters d = true) (hs : d ∉ s) :
    d ∉ s.capitalize := by
  intro h
  rcases mem_capitalize h with h | h
  · exact hs h
  · simp [hd] at h

/-! ## Spelling a word -/

/-- Whether a text spells a word in lower case, each letter as it is or as a capital. -/
def Spells (s word : Text) : Prop :=
  List.Forall₂ (fun c letter => c = letter ∨ c = asciiUpper letter) s word

theorem asciiLower_eq_iff {c letter : Char} (h : 'a' ≤ letter ∧ letter ≤ 'z') :
    asciiLower c = letter ↔ c = letter ∨ c = asciiUpper letter := by
  have hletter : 97 ≤ letter.toNat ∧ letter.toNat ≤ 122 := h
  have hupper : (asciiUpper letter).toNat = letter.toNat - 32 := by
    rw [asciiUpper, if_pos h, toNat_ofNat (Or.inl (by omega))]
  simp only [← Char.toNat_inj, hupper]
  rw [asciiLower]
  split
  · next hcapital =>
    have hc : 65 ≤ c.toNat ∧ c.toNat ≤ 90 := hcapital
    rw [toNat_ofNat (Or.inl (by omega))]
    omega
  · next hcapital =>
    have hc : ¬(65 ≤ c.toNat ∧ c.toNat ≤ 90) := hcapital
    omega

theorem map_asciiLower_eq_iff {s word : Text} (h : ∀ letter ∈ word, 'a' ≤ letter ∧ letter ≤ 'z') :
    s.map asciiLower = word ↔ s.Spells word := by
  induction word generalizing s with
  | nil => simp [Spells]
  | cons letter word ih =>
    rw [List.forall_mem_cons] at h
    cases s with
    | nil => simp [Spells]
    | cons c s =>
      rw [List.map_cons, List.cons.injEq, asciiLower_eq_iff h.1, ih h.2, Spells, Spells,
        List.forall₂_cons]

theorem eqIgnoringAsciiCase_iff {s word : Text} (h : ∀ letter ∈ word, 'a' ≤ letter ∧ letter ≤ 'z') :
    eqIgnoringAsciiCase s word = true ↔ s.Spells word := by
  have hword : word.map asciiLower = word :=
    (map_asciiLower_eq_iff h).2 (List.forall₂_same.2 fun _ _ => Or.inl rfl)
  rw [eqIgnoringAsciiCase, beq_iff_eq, hword, map_asciiLower_eq_iff h]

end Text

end CrudScaffold
