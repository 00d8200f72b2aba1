set_option autoImplicit false

/-! # Text

Text is handled as a list of characters: every rule about names, paths and templates is a rule
about lists. This module holds the operations that the rest of the library shares: cutting a text
at a separator, its size in bytes, decimal numerals and ASCII case.

Main statements: `Text.intercalate_splitOn` (joining the pieces of a text gives the text back),
`Text.notMem_of_mem_splitOn` (no piece holds the separator), `Text.splitOn_append` (cutting at one
separator cuts the pieces in two), and for the first separator alone `Text.cut_of_notMem` and
`Text.cut_append`. -/

namespace CrudScaffold

/-- A text is the list of its characters. -/
abbrev Text := List Char

namespace Text

/-! ## Cutting at a separator -/

/-- The pieces of a text between the occurrences of `sep`. There is always at least one. -/
def splitOn (sep : Char) : Text → List Text
  | [] => [[]]
  | c :: cs =>
    if c = sep then [] :: splitOn sep cs
    else match splitOn sep cs with
      | [] => [[c]]
      | piece :: pieces => (c :: piece) :: pieces

theorem splitOn_ne_nil (sep : Char) (s : Text) : splitOn sep s ≠ [] := by
  cases s with
  | nil => simp [splitOn]
  | cons c cs =>
    rw [splitOn]
    split
    · simp
    · split <;> simp

theorem intercalate_splitOn (sep : Char) (s : Text) : [sep].intercalate (splitOn sep s) = s := by
  induction s with
  | nil => simp [splitOn, List.intercalate]
  | cons c cs ih =>
    rw [splitOn]
    split
    · next h =>
      subst h
      cases hp : splitOn c cs with
      | nil => exact absurd hp (splitOn_ne_nil c cs)
      | cons piece pieces =>
        rw [hp] at ih
        simpa [List.intercalate, List.intersperse] using ih
    · split
      · next h => exact absurd h (splitOn_ne_nil sep cs)
      · next piece pieces hp =>
        rw [hp] at ih
        cases pieces with
        | nil => simpa [List.intercalate] using ih
        | cons second more => simpa [List.intercalate, List.intersperse] using ih

theorem notMem_of_mem_splitOn (sep : Char) (s piece : Text) (h : piece ∈ splitOn sep s) :
    sep ∉ piece := by
  induction s generalizing piece with
  | nil => simp_all [splitOn]
  | cons c cs ih =>
    rw [splitOn] at h
    split at h
    · simp only [List.mem_cons] at h
      rcases h with rfl | h
      · simp
      · exact ih piece h
    · next hc =>
      split at h
      · simp only [List.mem_singleton] at h
        subst h
        simpa using fun e : sep = c => hc e.symm
      · next first rest hp =>
        simp only [List.mem_cons] at h
        rcases h with rfl | h
        · have := ih first (by simp [hp])
          simp only [List.mem_cons, not_or]
          exact ⟨fun e => hc e.symm, this⟩
        · exact ih piece (by simp [hp, h])

theorem splitOn_of_notMem (sep : Char) (s : Text) (h : sep ∉ s) : splitOn sep s = [s] := by
  induction s with
  | nil => rfl
  | cons c cs ih =>
    simp only [List.mem_cons, not_or] at h
    rw [splitOn, if_neg (fun e => h.1 e.symm), ih h.2]

theorem splitOn_append (sep : Char) (s t : Text) :
    splitOn sep (s ++ sep :: t) = splitOn sep s ++ splitOn sep t := by
  induction s with
  | nil => simp [splitOn]
  | cons c cs ih =>
    rw [List.cons_append, splitOn, splitOn, ih]
    split
    · rfl
    · cases h : splitOn sep cs with
      | nil => exact absurd h (splitOn_ne_nil sep cs)
      | cons piece pieces => rfl

/-- The text before the first `sep`, and the text after it if there is one. -/
def cut (sep : Char) : Text → Text × Option Text
  | [] => ([], none)
  | c :: cs =>
    if c = sep then ([], some cs)
    else
      let (before, after) := cut sep cs
      (c :: before, after)

theorem cut_of_notMem (sep : Char) (s : Text) (h : sep ∉ s) : cut sep s = (s, none) := by
  induction s with
  | nil => rfl
  | cons c cs ih =>
    simp only [List.mem_cons, not_or] at h
    rw [cut, if_neg (fun e => h.1 e.symm), ih h.2]

theorem cut_append (sep : Char) (before after : Text) (h : sep ∉ before) :
    cut sep (before ++ sep :: after) = (before, some after) := by
  induction before with
  | nil => simp [cut]
  | cons c cs ih =>
    simp only [List.mem_cons, not_or] at h
    rw [List.cons_append, cut, if_neg (fun e => h.1 e.symm), ih h.2]

/-! ## Measures and numerals -/

/-- The number of bytes of a text in UTF-8. -/
def byteSize : Text → Nat
  | [] => 0
  | c :: s => c.utf8Size + byteSize s

theorem byteSize_append (s t : Text) : byteSize (s ++ t) = byteSize s + byteSize t := by
  induction s with
  | nil => simp [byteSize]
  | cons c s ih => simp [byteSize, ih, Nat.add_assoc]

/-- The characters at the start of a text that fit into a number of bytes as a whole. -/
def takeBytes : Nat → Text → Text
  | _, [] => []
  | n, c :: s => if c.utf8Size ≤ n then c :: takeBytes (n - c.utf8Size) s else []

/-- What follows the first `n` bytes of a text, unless they end inside a character. -/
def dropBytes? : Nat → Text → Option Text
  | 0, s => some s
  | _ + 1, [] => none
  | n + 1, c :: s => if c.utf8Size ≤ n + 1 then dropBytes? (n + 1 - c.utf8Size) s else none

/-- The bytes of a text from `start` up to `stop`, unless that cuts a character in two. -/
def slice? (start stop : Nat) (s : Text) : Option Text :=
  (dropBytes? start s).bind fun s =>
    let found := takeBytes (stop - start) s
    if byteSize found = stop - start then some found else none

/-- The decimal numeral of a natural number. -/
def ofNat (n : Nat) : Text := Nat.toDigits 10 n

/-- The decimal numeral of an integer, with a leading minus sign if it is negative. -/
def ofInt : Int → Text
  | .ofNat n => ofNat n
  | .negSucc n => '-' :: ofNat (n + 1)

/-! ## Literals -/

/-- The characters of a string. A string of ASCII characters is read byte by byte, which takes a
proof far fewer steps than decoding it. -/
def ofString (s : String) : Text :=
  let bytes := s.toByteArray.data.toList
  if bytes.all fun b => b < 128 then bytes.map Char.ofUInt8 else s.toList

/-- A character outside of ASCII begins with a byte outside of ASCII. -/
theorem map_utf8EncodeChar_of_ascii (c : Char)
    (h : (String.utf8EncodeChar c).all (fun b => b < 128) = true) :
    (String.utf8EncodeChar c).map Char.ofUInt8 = [c] := by
  rw [String.utf8EncodeChar] at h ⊢
  split at h
  · next hc =>
    have hbyte : c.val.toNat < 2 ^ 8 := by omega
    have hchar : Char.ofUInt8 (UInt8.ofNat c.val.toNat) = c := by
      refine Char.ext (UInt32.toNat_inj.1 ?_)
      show (UInt8.ofNat c.val.toNat).toUInt32.toNat = c.val.toNat
      rw [UInt8.toNat_toUInt32, UInt8.toNat_ofNat', Nat.mod_eq_of_lt hbyte]
    rw [if_pos hc, List.map_singleton, hchar]
  · repeat' split at h
    all_goals
      simp only [List.all_cons, Bool.and_eq_true, decide_eq_true_eq, UInt8.lt_iff_toNat_lt,
        UInt8.toNat_ofNat'] at h
      have hfirst := h.1
      simp at hfirst
      omega

theorem map_utf8Encode_of_ascii (s : Text)
    (h : (s.flatMap String.utf8EncodeChar).all (fun b => b < 128) = true) :
    (s.flatMap String.utf8EncodeChar).map Char.ofUInt8 = s := by
  induction s with
  | nil => rfl
  | cons c s ih =>
    rw [List.flatMap_cons, List.all_append, Bool.and_eq_true] at h
    rw [List.flatMap_cons, List.map_append, map_utf8EncodeChar_of_ascii c h.1, ih h.2,
      List.singleton_append]

theorem ofString_eq_toList (s : String) : ofString s = s.toList := by
  have hbytes : s.toByteArray.data.toList = s.toList.flatMap String.utf8EncodeChar := by
    have hs : s.toByteArray = s.toList.utf8Encode := by
      rw [← String.toByteArray_ofList, String.ofList_toList]
    rw [hs, List.utf8Encode]
    simp
  simp only [ofString, hbytes]
  split
  · next h => exact map_utf8Encode_of_ascii s.toList h
  · rfl

/-! ## ASCII case and affixes -/

/-- The lower-case form of an ASCII letter, and any other character unchanged. -/
def asciiLower (c : Char) : Char :=
  if 'A' ≤ c ∧ c ≤ 'Z' then Char.ofNat (c.toNat + 32) else c

/-- The upper-case form of an ASCII letter, and any other character unchanged. -/
def asciiUpper (c : Char) : Char :=
  if 'a' ≤ c ∧ c ≤ 'z' then Char.ofNat (c.toNat - 32) else c

/-- Equality up to the case of ASCII letters. -/
def eqIgnoringAsciiCase (s t : Text) : Bool := s.map asciiLower == t.map asciiLower

/-- The rest of a text after a fixed beginning, if the text begins so. -/
def dropStart? : Text → Text → Option Text
  | [], s => some s
  | _ :: _, [] => none
  | c :: start, d :: s => if c = d then dropStart? start s else none

end Text

/-- String literals are accepted where a text is expected. -/
instance : Coe String Text := ⟨String.toList⟩

end CrudScaffold
