import CrudScaffold.Decimal.Written
import CrudScaffold.Path
import CrudScaffold.Text.Quoted

set_option autoImplicit false

/-! # Layers of settings

Settings come in layers: the built-in ones, those of a file and those of the environment. A layer
is a tree of values, each of which remembers where it comes from. Laying one over another keeps
what only one of them has, joins tables key by key, and otherwise lets the upper layer win.

Main statements: `Setting.key?_overlay` says what stands under a key of one table laid over
another, and `Setting.overlay_of_not_table` that anything else replaces what it is laid over. -/

namespace CrudScaffold

/-- Where a value of a setting comes from. -/
inductive Origin where
  | builtIn
  /-- A file, by the path that messages show. -/
  | file (shown : Path)
  | environment
  /-- A place that messages have no words for. -/
  | unnamed
  deriving DecidableEq, Repr

/-- A single value of a setting. -/
inductive Scalar where
  | text (value : Text)
  | unsigned (value : Nat)
  | signed (value : Int)
  | real (value : Binary64)
  | bool (value : Bool)
  deriving DecidableEq, Repr

/-- A tree of settings. -/
inductive Setting where
  | scalar (origin : Origin) (value : Scalar)
  | list (origin : Origin) (items : List Setting)
  | table (origin : Origin) (entries : List (Text × Setting))

namespace Setting

/-- Where a setting comes from. -/
def origin : Setting → Origin
  | scalar origin _ => origin
  | list origin _ => origin
  | table origin _ => origin

/-- A setting as if it came from elsewhere. What it holds comes from where it came from. -/
def withOrigin (origin : Origin) : Setting → Setting
  | scalar _ value => scalar origin value
  | list _ items => list origin items
  | table _ entries => table origin entries

/-- What a setting is, in the words of an error message. -/
def describe : Setting → Text
  | scalar _ (.text value) => ("string " : Text) ++ value.quoted
  | scalar _ (.unsigned value) =>
    ("unsigned int \x60" : Text) ++ Text.ofNat value ++ ("\x60" : Text)
  | scalar _ (.signed value) =>
    ("signed int \x60" : Text) ++ Text.ofInt value ++ ("\x60" : Text)
  | scalar _ (.real value) =>
    ("float \x60" : Text) ++ Notation64.message.write value ++ ("\x60" : Text)
  | scalar _ (.bool value) => if value then "bool true" else "bool false"
  | list .. => "sequence"
  | table .. => "map"

/-- The value under a key. -/
def key? (key : Text) : Setting → Option Setting
  | table _ entries => entries.lookup key
  | _ => none

/-- The value at the end of a path of keys. -/
def get? : List Text → Setting → Option Setting
  | [], s => some s
  | key :: keys, s => (s.key? key).bind (get? keys)

mutual

/-- Lay the second setting over the first. -/
def overlay : Setting → Setting → Setting
  | table _ lower, table origin upper =>
    table origin (overlayEntries upper lower ++ upper.filter fun e => (lower.lookup e.1).isNone)
  | _, upper => upper

/-- Lay entries over others, for the keys that the others have. -/
def overlayEntries (upper : List (Text × Setting)) :
    List (Text × Setting) → List (Text × Setting)
  | [] => []
  | (key, value) :: lower =>
    let joined := match upper.lookup key with
      | none => value
      | some above => overlay value above
    (key, joined) :: overlayEntries upper lower

end

theorem lookup_overlayEntries (upper lower : List (Text × Setting)) (key : Text) :
    (overlayEntries upper lower).lookup key
      = (lower.lookup key).map fun value => ((upper.lookup key).map value.overlay).getD value := by
  induction lower with
  | nil => simp [overlayEntries]
  | cons e lower ih =>
    obtain ⟨k, value⟩ := e
    rw [overlayEntries]
    simp only [List.lookup_cons]
    by_cases h : key = k
    · subst h
      cases upper.lookup key <;> simp
    · have hb : (key == k) = false := by simpa using h
      simp [hb, ih]

/-- Keeping the entries whose keys pass a test keeps what stands under such a key. -/
theorem lookup_filter_of_test {α : Type} (test : Text → Bool) (entries : List (Text × α)) (key : Text)
    (h : test key = true) :
    (entries.filter fun e => test e.1).lookup key = entries.lookup key := by
  induction entries with
  | nil => rfl
  | cons e entries ih =>
    obtain ⟨k, value⟩ := e
    by_cases hk : key = k
    · subst hk
      simp [h]
    · have hb : (key == k) = false := by simpa using hk
      cases ht : test k <;> simp [ht, List.lookup_cons, hb, ih]

theorem key?_overlay (o o' : Origin) (lower upper : List (Text × Setting)) (key : Text) :
    ((table o lower).overlay (table o' upper)).key? key
      = match lower.lookup key with
        | none => upper.lookup key
        | some value => some (((upper.lookup key).map value.overlay).getD value) := by
  rw [overlay, key?, List.lookup_append, lookup_overlayEntries]
  cases h : lower.lookup key with
  | none =>
    exact lookup_filter_of_test (fun k => (lower.lookup k).isNone) upper key (by simp [h])
  | some value => simp

/-- An upper layer that is no table replaces all below it. -/
theorem overlay_of_not_table (lower upper : Setting) (h : ∀ o entries, upper ≠ table o entries) :
    lower.overlay upper = upper := by
  cases upper with
  | table o entries => exact absurd rfl (h o entries)
  | scalar o value => cases lower <;> rfl
  | list o items => cases lower <;> rfl

/-- A setting under a path of keys. -/
def nest (origin : Origin) (value : Setting) : List Text → Setting
  | [] => value
  | key :: keys => table origin [(key, nest origin value keys)]

end Setting

end CrudScaffold
