import CrudScaffold.Proofs.Settings.Loading

set_option autoImplicit false

/-! # Layers that differ under one key

Two layers that are the same but for what stands under one key (`Setting.AgreeBut`) stay so when other
layers are laid under or over both of them. What is read of them is read key by key
(`Settings.settings_entries`), so all that is read of the other keys is the same. -/

namespace CrudScaffold

namespace Setting

variable {key k : Text} {s s' s'' lower lower' upper upper' : Setting}

/-! ## Keys of one layer laid over another -/

/-- What stands at a place of one layer laid over another, by what stands there in the two. -/
def join? : Option Setting → Option Setting → Option Setting
  | none, upper? => upper?
  | some lower, none => some lower
  | some lower, some upper => some (lower.overlay upper)

@[simp] theorem join?_none (lower? : Option Setting) : join? lower? none = lower? := by
  cases lower? <;> rfl

theorem isTable_overlay (lower : Setting) (hupper : upper.IsTable) : (lower.overlay upper).IsTable := by
  obtain ⟨origin, entries, rfl⟩ := hupper
  cases lower with
  | table => exact IsTable.overlay ⟨_, _, rfl⟩ ⟨_, _, rfl⟩
  | scalar => exact ⟨_, _, rfl⟩
  | list => exact ⟨_, _, rfl⟩

/-- Below a table, what is no table counts as one without keys. -/
theorem key?_overlay_of_isTable (lower : Setting) (hupper : upper.IsTable) (k : Text) :
    (lower.overlay upper).key? k = join? (lower.key? k) (upper.key? k) := by
  obtain ⟨origin, above, rfl⟩ := hupper
  cases lower with
  | table o below =>
    rw [key?_overlay, Setting.key?, Setting.key?]
    cases below.lookup k <;> cases above.lookup k <;> rfl
  | scalar => rfl
  | list => rfl

theorem isTable_nest (origin : Origin) (value : Setting) (key : Text) (keys : List Text) :
    (nest origin value (key :: keys)).IsTable := ⟨_, _, rfl⟩

theorem key?_nest_of_ne (origin : Origin) (value : Setting) (keys : List Text) (h : k ≠ key) :
    (nest origin value (key :: keys)).key? k = none := by
  rw [nest, Setting.key?, List.lookup_cons, beq_eq_false_iff_ne.2 h]
  rfl

/-! ## Agreement -/

/-- Whether two settings are tables that are the same but for what stands under a key. -/
structure AgreeBut (key : Text) (s s' : Setting) : Prop where
  left : s.IsTable
  right : s'.IsTable
  key?_eq : ∀ k, k ≠ key → s'.key? k = s.key? k

theorem AgreeBut.refl (key : Text) (h : s.IsTable) : AgreeBut key s s := ⟨h, h, fun _ _ => rfl⟩

theorem AgreeBut.symm (h : AgreeBut key s s') : AgreeBut key s' s :=
  ⟨h.right, h.left, fun k hk => (h.key?_eq k hk).symm⟩

theorem AgreeBut.trans (h : AgreeBut key s s') (h' : AgreeBut key s' s'') : AgreeBut key s s'' :=
  ⟨h.left, h'.right, fun k hk => (h'.key?_eq k hk).trans (h.key?_eq k hk)⟩

theorem AgreeBut.overlay (hlower : AgreeBut key lower lower') (hupper : AgreeBut key upper upper') :
    AgreeBut key (lower.overlay upper) (lower'.overlay upper') := by
  refine ⟨hlower.left.overlay hupper.left, hlower.right.overlay hupper.right, fun k hk => ?_⟩
  rw [key?_overlay_of_isTable lower' hupper.right, key?_overlay_of_isTable lower hupper.left,
    hlower.key?_eq k hk, hupper.key?_eq k hk]

theorem agreeBut_overlay_nest (h : s.IsTable) (origin : Origin) (value : Setting) (key : Text)
    (keys : List Text) : AgreeBut key s (s.overlay (nest origin value (key :: keys))) := by
  have hnest := isTable_nest origin value key keys
  refine ⟨h, h.overlay hnest, fun k hk => ?_⟩
  rw [key?_overlay_of_isTable s hnest, key?_nest_of_ne origin value keys hk, join?_none]

end Setting

/-! ## Variables, one after the other -/

namespace Environment

open Setting

variable {s s' : Setting} {key name : Text} {keys : List Text}

/-- Lay the setting of one more variable over a layer. -/
def addVariable (s : Setting) (entry : Text × Text) : Setting :=
  match keys? entry.1 with
  | none => s
  | some keys => s.overlay (nest .environment (parseValue entry.2) keys)

theorem layer_eq_foldl (environment : List (Text × Text)) :
    layer environment = environment.foldl addVariable (.table .environment []) := rfl

theorem addVariable_of_keys? (s : Setting) (text : Text) (h : keys? name = some keys) :
    addVariable s (name, text) = s.overlay (nest .environment (parseValue text) keys) := by
  rw [addVariable, h]

theorem agreeBut_addVariable_addVariable (h : AgreeBut key s s') (entry : Text × Text) :
    AgreeBut key (addVariable s entry) (addVariable s' entry) := by
  unfold addVariable
  split
  · exact h
  · next keys hkeys =>
    cases keys with
    | nil => exact absurd rfl (keys?_ne_nil hkeys)
    | cons first keys => exact h.overlay (.refl key (isTable_nest _ _ first keys))

/-- A variable for what stands under a key changes nothing else. -/
theorem agreeBut_addVariable (h : s.IsTable) (text : Text) (hkeys : keys? name = some (key :: keys)) :
    AgreeBut key s (addVariable s (name, text)) := by
  rw [addVariable_of_keys? s text hkeys]
  exact agreeBut_overlay_nest h _ _ key keys

end Environment

end CrudScaffold
