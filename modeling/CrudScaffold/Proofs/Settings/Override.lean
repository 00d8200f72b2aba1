import CrudScaffold.Proofs.Settings.Root
import CrudScaffold.Proofs.Settings.Value

set_option autoImplicit false

/-! # One variable over a configuration

A variable for a key other than the root is laid over whatever the layers have there. It changes what is read
of this key and of no other (`Setting.IsSet`), as long as the layers below make a table of what is on the way
to it and no later variable meets it. What is read is the text of the variable, unless that is written as a
value of its own (`Settings.load_override`). -/

namespace CrudScaffold

namespace Setting

variable {value lower s m : Setting} {old? : Option Setting} {origin : Origin} {key k : Text}
  {keys keys' : List Text}

/-! ## A value at the end of some keys -/

/-- Whether neither of two paths of keys goes on from the other. -/
def KeysApart (keys keys' : List Text) : Prop := ¬keys <+: keys' ∧ ¬keys' <+: keys

instance (keys keys' : List Text) : Decidable (KeysApart keys keys') :=
  inferInstanceAs (Decidable (¬keys <+: keys' ∧ ¬keys' <+: keys))

theorem keysApart_cons (h : KeysApart (key :: keys) (key :: keys')) : KeysApart keys keys' :=
  ⟨fun hprefix => h.1 (List.cons_prefix_cons.2 ⟨rfl, hprefix⟩),
    fun hprefix => h.2 (List.cons_prefix_cons.2 ⟨rfl, hprefix⟩)⟩

/-- Whether a setting has, on its surface, a value at the end of some keys and is otherwise as another one
was, if there was one. -/
def IsSet (value : Setting) : List Text → Option Setting → Setting → Prop
  | [], _, s => s.surface = value.surface
  | key :: keys, old?, s => s.IsTable ∧ (∀ k, k ≠ key → s.key? k = old?.bind (key? k)) ∧
    ∃ inner, s.key? key = some inner ∧ IsSet value keys (old?.bind (key? key)) inner

theorem key?_nest_self (origin : Origin) (value : Setting) (key : Text) (keys : List Text) :
    (nest origin value (key :: keys)).key? key = some (nest origin value keys) := by
  rw [nest, Setting.key?, List.lookup_cons_self]

theorem bind_key?_join? {upper : Setting} (hupper : upper.IsTable) (old? : Option Setting) (k : Text) :
    (join? old? (some upper)).bind (key? k) = join? (old?.bind (key? k)) (upper.key? k) := by
  cases old? with
  | none => rfl
  | some old => exact key?_overlay_of_isTable old hupper k

/-- What is laid over a setting at the end of some keys is set there. -/
theorem isSet_of_join?_nest (h : join? old? (some (nest origin value keys)) = some s) :
    IsSet value keys old? s := by
  induction keys generalizing old? s with
  | nil =>
    cases old? with
    | none =>
      obtain rfl := Option.some.inj h
      rfl
    | some old =>
      obtain rfl := Option.some.inj h
      exact surface_overlay old value
  | cons key keys ih =>
    have hnest := isTable_nest origin value key keys
    have hkeys : ∀ k, s.key? k = join? (old?.bind (key? k)) ((nest origin value (key :: keys)).key? k) := by
      intro k
      rw [← bind_key?_join? hnest, h, Option.bind_some]
    refine ⟨?_, fun k hk => ?_, ?_⟩
    · cases old? with
      | none => exact Option.some.inj h ▸ hnest
      | some old => exact Option.some.inj h ▸ isTable_overlay old hnest
    · rw [hkeys, key?_nest_of_ne origin value keys hk, join?_none]
    · obtain ⟨inner, hjoin⟩ : ∃ inner, join? (old?.bind (key? key)) (some (nest origin value keys)) = some inner := by
        cases old?.bind (key? key) <;> exact ⟨_, rfl⟩
      rw [hkeys, key?_nest_self, hjoin]
      exact ⟨inner, rfl, ih hjoin⟩

/-- It stays set when something apart from it is laid over both. -/
theorem IsSet.overlay_nest (h : IsSet value keys old? s) (hapart : KeysApart keys keys') (origin : Origin)
    (other : Setting) :
    IsSet value keys (join? old? (some (nest origin other keys'))) (s.overlay (nest origin other keys')) := by
  induction keys generalizing keys' old? s with
  | nil => exact absurd List.nil_prefix hapart.1
  | cons key keys ih =>
    cases keys' with
    | nil => exact absurd List.nil_prefix hapart.2
    | cons key' keys' =>
      have hnest := isTable_nest origin other key' keys'
      obtain ⟨-, hother, inner, hinner, hset⟩ := h
      refine ⟨isTable_overlay s hnest, fun k hk => ?_, ?_⟩
      · rw [key?_overlay_of_isTable s hnest, hother k hk, bind_key?_join? hnest]
      · rw [key?_overlay_of_isTable s hnest, hinner, bind_key?_join? hnest]
        by_cases hkey : key = key'
        · obtain rfl := hkey
          rw [key?_nest_self]
          exact ⟨_, rfl, ih hset (keysApart_cons hapart)⟩
        · rw [key?_nest_of_ne origin other keys' hkey, join?_none, join?_none]
          exact ⟨inner, rfl, hset⟩

theorem isTable_of_overlay {upper : Setting} (h : (lower.overlay upper).IsTable) : upper.IsTable := by
  cases upper with
  | table origin entries => exact ⟨origin, entries, rfl⟩
  | scalar | list =>
    rw [overlay_of_not_table _ _ (fun _ _ h => by cases h)] at h
    exact h

/-- It stays set when both are laid over something, if that leaves tables on the way. -/
theorem IsSet.overlay_over (lower : Setting) (h : IsSet value keys old? s) (hm : join? (some lower) old? = some m)
    (halong : IsTableAlong keys m) : IsSet value keys (some m) (lower.overlay s) := by
  induction keys generalizing lower old? s m with
  | nil => exact (surface_overlay lower s).trans h
  | cons key keys ih =>
    obtain ⟨htable, hother, inner, hinner, hset⟩ := h
    obtain ⟨origin, entries, rfl, halong⟩ := halong
    -- Keys of the lower layer that a list had replaced would come back under the table of the value.
    have hkeys : ∀ k, (table origin entries).key? k = join? (lower.key? k) (old?.bind (key? k)) := by
      intro k
      cases old? with
      | none =>
        obtain rfl := Option.some.inj hm
        rw [Option.bind_none, join?_none]
      | some old =>
        have hmerged : lower.overlay old = table origin entries := Option.some.inj hm
        rw [← hmerged, key?_overlay_of_isTable lower (isTable_of_overlay ⟨_, _, hmerged⟩), Option.bind_some]
    refine ⟨isTable_overlay lower htable, fun k hk => ?_, ?_⟩
    · rw [key?_overlay_of_isTable lower htable, hother k hk, Option.bind_some, hkeys]
    · rw [key?_overlay_of_isTable lower htable, hinner, Option.bind_some]
      cases hlow : lower.key? key with
      | none =>
        rw [hkeys, hlow]
        exact ⟨inner, rfl, hset⟩
      | some low =>
        obtain ⟨merged, hmerged⟩ : ∃ merged, join? (some low) (old?.bind (key? key)) = some merged := by
          cases old?.bind (key? key) <;> exact ⟨_, rfl⟩
        have hkey := hkeys key
        rw [hlow, hmerged] at hkey
        rw [hkey]
        exact ⟨_, rfl, ih low hset hmerged (halong merged hkey)⟩

theorem IsSet.exists_get? (h : IsSet value keys old? s) :
    ∃ found, s.get? keys = some found ∧ found.surface = value.surface := by
  induction keys generalizing old? s with
  | nil => exact ⟨s, rfl, h⟩
  | cons key keys ih =>
    obtain ⟨-, -, inner, hinner, hset⟩ := h
    obtain ⟨found, hfound, hsurface⟩ := ih hset
    exact ⟨found, by rw [get?, hinner, Option.bind_some, hfound], hsurface⟩

theorem IsSet.get?_of_apart (h : IsSet value keys old? s) (hapart : KeysApart keys keys') :
    s.get? keys' = old?.bind (get? keys') := by
  induction keys generalizing keys' old? s with
  | nil => exact absurd List.nil_prefix hapart.1
  | cons key keys ih =>
    cases keys' with
    | nil => exact absurd List.nil_prefix hapart.2
    | cons key' keys' =>
      obtain ⟨-, hother, inner, hinner, hset⟩ := h
      have hold : old?.bind (get? (key' :: keys')) = (old?.bind (key? key')).bind (get? keys') := by
        cases old? <;> rfl
      rw [hold, get?]
      by_cases hkey : key' = key
      · obtain rfl := hkey
        rw [hinner, Option.bind_some, ih hset (keysApart_cons hapart)]
      · rw [hother key' hkey]

end Setting

namespace Settings

open Setting

/-! ## Reading with another value under a key -/

/-- The settings with another text under a key. -/
def set (settings : Settings) (key : Key) (text : Text) : Settings :=
  ofTexts fun k => if k = key then text else k.value settings

variable {s : Settings} {old new value : Setting} {key key' : Key}

theorem value_set_self (s : Settings) (key : Key) (text : Text) : key.value (s.set key text) = text := by
  rw [set, value_ofTexts, if_pos rfl]

theorem Key.parts_apart (h : key ≠ key') : KeysApart key.parts key'.parts := by
  cases key <;> cases key' <;> first | exact absurd rfl h | decide

theorem exists_of_bind_eq_ok {α β : Type} {result : Except SettingsError α}
    {f : α → Except SettingsError β} {b : β} (h : result >>= f = .ok b) : ∃ a, result = .ok a ∧ f a = .ok b := by
  cases result with
  | error error => cases h
  | ok a => exact ⟨a, rfl, h⟩

theorem read_of_ofReads {read : Key → Except SettingsError Text} (h : ofReads read = .ok s) (key : Key) :
    read key = .ok (key.value s) := by
  obtain ⟨extension, hextension, h⟩ := exists_of_bind_eq_ok h
  obtain ⟨layout, hlayout, h⟩ := exists_of_bind_eq_ok h
  obtain ⟨root, hroot, h⟩ := exists_of_bind_eq_ok h
  obtain ⟨controllers, hcontrollers, hlayout⟩ := exists_of_bind_eq_ok hlayout
  obtain ⟨middlewares, hmiddlewares, hlayout⟩ := exists_of_bind_eq_ok hlayout
  obtain ⟨models, hmodels, hlayout⟩ := exists_of_bind_eq_ok hlayout
  obtain ⟨routes, hroutes, hlayout⟩ := exists_of_bind_eq_ok hlayout
  obtain ⟨validations, hvalidations, hlayout⟩ := exists_of_bind_eq_ok hlayout
  obtain rfl := Except.ok.inj hlayout
  obtain rfl := Except.ok.inj h
  cases key <;> assumption

/-- If all keys but one can be read, that one decides. -/
theorem ofReads_of_other {read : Key → Except SettingsError Text}
    (h : ∀ k, k ≠ key → read k = .ok (k.value s)) : ofReads read = (read key).map (s.set key) := by
  cases hread : read key with
  | error error =>
    cases key <;> simp only [ofReads, layoutOfReads, hread, h, ne_eq, reduceCtorEq, not_false_eq_true] <;> rfl
  | ok text =>
    cases key <;> simp only [ofReads, layoutOfReads, hread, h, ne_eq, reduceCtorEq, not_false_eq_true] <;> rfl

theorem layoutIsTable_of_isSet (h : IsSet value key.parts (some old) new) (hlayout : old.layoutIsTable = true) :
    new.layoutIsTable = true := by
  by_cases hparts : ∃ name, key.parts = [("layout" : Text), name]
  · obtain ⟨name, hparts⟩ := hparts
    rw [hparts] at h
    obtain ⟨-, -, layout, hlayout, ⟨origin, entries, rfl⟩, -⟩ := h
    rw [layoutIsTable, hlayout]
  · have hapart : KeysApart key.parts [("layout" : Text)] := by
      cases key <;> first | exact absurd ⟨_, rfl⟩ hparts | decide
    have hsame := h.get?_of_apart hapart
    rw [get?_singleton, Option.bind_some, get?_singleton] at hsame
    rwa [layoutIsTable, hsame]

/-- If a value is set under a key, it decides what is read of settings that could be read without it. -/
theorem settings_of_isSet (h : IsSet value key.parts (some old) new)
    (hlayout : key = .extension ∨ old.layoutIsTable = true) (hold : Setting.settings old.entries = .ok s) :
    ∃ found : Setting, found.surface = value.surface ∧
      Setting.settings new.entries = (found.text key.expected key.parts).map (s.set key) := by
  obtain ⟨found, hfound, hsurface⟩ := h.exists_get?
  refine ⟨found, hsurface, ?_⟩
  obtain rfl | hlayout := hlayout
  · rw [settings_entries] at hold ⊢
    obtain ⟨extension, hextension, hold⟩ := exists_of_bind_eq_ok hold
    obtain ⟨layout, hlayout, hold⟩ := exists_of_bind_eq_ok hold
    obtain ⟨root, hroot, hold⟩ := exists_of_bind_eq_ok hold
    obtain rfl := Except.ok.inj hold
    have hother := fun name (hname : KeysApart [("extension" : Text)] [name]) => h.get?_of_apart hname
    simp only [Key.parts, get?_singleton, Option.bind_some] at hfound hother
    rw [hother "layout" (by decide), hother "root" (by decide), hlayout, hroot, hfound, textOr, text_eq,
      text_eq]
    cases found.text? <;> rfl
  · rw [settings_eq_ofReads hlayout] at hold
    have hother : ∀ k, k ≠ key → read new k = .ok (k.value s) := fun k hk => by
      rw [read, h.get?_of_apart (Key.parts_apart hk.symm), Option.bind_some, ← read, read_of_ofReads hold]
    rw [settings_eq_ofReads (layoutIsTable_of_isSet h hlayout), ofReads_of_other hother, read, hfound, textOr]

end Settings

/-! ## One variable among others -/

namespace Environment

open Setting

variable {s s' value : Setting} {keys : List Text} {name : Text} {after : List (Text × Text)}

theorem isSet_addVariable_addVariable (h : IsSet value keys (some s) s') (entry : Text × Text)
    (hapart : ∀ keys', keys? entry.1 = some keys' → KeysApart keys keys') :
    IsSet value keys (some (addVariable s entry)) (addVariable s' entry) := by
  unfold addVariable
  split
  · exact h
  · next keys' hkeys' => exact h.overlay_nest (hapart keys' hkeys') .environment (parseValue entry.2)

/-- What a variable sets stays set if none of those after it meets it. -/
theorem isSet_layer (before : List (Text × Text)) (text : Text) (hname : keys? name = some keys)
    (hafter : ∀ entry ∈ after, ∀ keys', keys? entry.1 = some keys' → KeysApart keys keys') :
    IsSet (parseValue text) keys (some (layer (before ++ after))) (layer (before ++ (name, text) :: after)) := by
  rw [layer_eq_foldl, layer_eq_foldl, List.foldl_append, List.foldl_append, List.foldl_cons,
    addVariable_of_keys? _ text hname]
  generalize before.foldl addVariable (.table .environment []) = below
  generalize hset : below.overlay (nest .environment (parseValue text) keys) = above
  replace hset : IsSet (parseValue text) keys (some below) above := isSet_of_join?_nest (congrArg some hset)
  induction after generalizing below above with
  | nil => exact hset
  | cons entry after ih =>
    rw [List.foldl_cons, List.foldl_cons]
    exact ih (fun later hlater => hafter later (List.mem_cons_of_mem _ hlater)) _ _
      (isSet_addVariable_addVariable hset entry (hafter entry List.mem_cons_self))

end Environment

namespace Settings

open Setting

/-- The variable for a key. -/
def Key.variable (key : Key) : Text :=
  ("CRUDGEN_" : Text) ++ List.intercalate ("__" : Text) (key.parts.map (List.map Text.asciiUpper))

example : Key.models.variable = "CRUDGEN_LAYOUT__MODELS" := rfl

theorem keys?_variable (key : Key) : Environment.keys? key.variable = some key.parts := by
  cases key <;> rfl

/-- Whether the file, if one is found, can be taken in, and what the layers make of the layout is a table. -/
def hasLayoutTable (t : FileTree) (cwd : Place) (root : Path) (chosen? : Option Path)
    (environment : List (Text × Text)) : Bool :=
  (foundLayer? cwd.path (file? t cwd root chosen?)).any fun file =>
    (merged root file (Environment.layer environment)).layoutIsTable

variable {t : FileTree} {cwd : Place} {root : Path} {chosen? : Option Path} {before after : List (Text × Text)}
  {name v : Text} {key : Key} {s : Settings}

theorem ofLayers_eq (root : Path) (file layer : Setting) :
    ofLayers root file layer =
      (Setting.settings (merged root file layer).entries).map fun settings => { settings with root } := by
  rw [ofLayers, ← merged]
  cases Setting.settings (merged root file layer).entries <;> rfl

theorem set_with_root (s : Settings) (root : Path) (text : Text) (h : key ≠ .root) :
    { s.set key text with root } = { s with root }.set key text := by
  cases key <;> first | exact absurd rfl h | rfl

theorem exists_loaded_override (hkey : key ≠ .root) (hname : Environment.keys? name = some key.parts)
    (hafter : ∀ entry ∈ after, ∀ keys, Environment.keys? entry.1 = some keys → KeysApart key.parts keys)
    (hlayout : key = .extension ∨ hasLayoutTable t cwd root chosen? (before ++ after) = true)
    (hload : loaded t cwd root chosen? (before ++ after) = .ok s) (v : Text) :
    ∃ found : Setting, found.surface = (Environment.parseValue v).surface ∧
      loaded t cwd root chosen? (before ++ (name, v) :: after) =
        (found.text key.expected key.parts).map (s.set key) := by
  cases hfile : foundLayer? cwd.path (file? t cwd root chosen?) with
  | none =>
    rw [loaded_eq_malformed hfile] at hload
    cases hload
  | some file =>
    rw [hasLayoutTable, hfile, Option.any_some] at hlayout
    rw [loaded_eq_ofLayers hfile, ofLayers_eq] at hload ⊢
    have hmerged : (merged root file (Environment.layer (before ++ after))).IsTable :=
      isTable_overlay _ (Environment.isTable_layer _)
    have halong : IsTableAlong key.parts (merged root file (Environment.layer (before ++ after))) := by
      obtain rfl | hlayout := hlayout
      · obtain ⟨origin, entries, htable⟩ := hmerged
        exact ⟨origin, entries, htable, fun _ _ => trivial⟩
      · exact isTableAlong_parts hmerged hlayout key
    have hset := (Environment.isSet_layer before v hname hafter).overlay_over ((builtIn root).overlay file) rfl
      halong
    rw [← merged, ← merged] at hset
    cases hbelow : Setting.settings (merged root file (Environment.layer (before ++ after))).entries with
    | error error =>
      rw [hbelow] at hload
      cases hload
    | ok below =>
      rw [hbelow] at hload
      obtain rfl := Except.ok.inj hload
      obtain ⟨found, hsurface, hread⟩ := settings_of_isSet hset hlayout hbelow
      refine ⟨found, hsurface, ?_⟩
      rw [hread]
      cases found.text key.expected key.parts with
      | error error => rfl
      | ok text => exact congrArg Except.ok (set_with_root below root text hkey)

/-- **One variable over a configuration.** Let settings be loaded without a variable for a key other than the
root. With it, they have its very text under the key, and are otherwise as they were, exactly if the text is
not written as a value of its own. Otherwise they have the text that stands between its quotation marks, or
loading fails at this key if there is none. -/
theorem load_override (hkey : key ≠ .root) (hname : Environment.keys? name = some key.parts)
    (hafter : ∀ entry ∈ after, ∀ keys, Environment.keys? entry.1 = some keys → KeysApart key.parts keys)
    (hlayout : key = .extension ∨ hasLayoutTable t cwd root chosen? (before ++ after) = true)
    (hload : loaded t cwd root chosen? (before ++ after) = .ok s) (hv : Text.trim v = v) :
    (loaded t cwd root chosen? (before ++ (name, v) :: after) = .ok (s.set key v) ↔
      Environment.isTyped v = false) ∧
    (∀ text, (Environment.parseValue v).text? = some text →
      loaded t cwd root chosen? (before ++ (name, v) :: after) = .ok (s.set key text)) ∧
    ((Environment.parseValue v).text? = none →
      ∃ found : Setting, found.surface = (Environment.parseValue v).surface ∧
        loaded t cwd root chosen? (before ++ (name, v) :: after) =
          .error (.wrongType found key.expected key.parts)) := by
  obtain ⟨found, hsurface, hloaded⟩ := exists_loaded_override hkey hname hafter hlayout hload v
  have htext : found.text? = (Environment.parseValue v).text? := by
    rw [← text?_surface, hsurface, text?_surface]
  rw [hloaded, text_eq, htext, ← Environment.text?_parseValue_eq_some_iff hv]
  cases (Environment.parseValue v).text? with
  | none => exact ⟨⟨nofun, nofun⟩, nofun, fun _ => ⟨found, hsurface, rfl⟩⟩
  | some text =>
    refine ⟨⟨fun h => ?_, fun h => ?_⟩, fun other h => ?_, nofun⟩
    · have hvalue := congrArg key.value (Except.ok.inj h)
      rw [value_set_self, value_set_self] at hvalue
      rw [hvalue]
    · rw [Option.some.inj h]
      rfl
    · rw [Option.some.inj h]
      rfl

/-- A tree with a file of settings that has a table for the layout. -/
def keyed : FileTree := saying "extension = \"ts\"\nlayout.routes = \"api\""

/-- An environment with other settings over that file. -/
def earlier : List (Text × Text) := [("CRUDGEN_EXTENSION", "mjs")]

/-- More of that environment. -/
def later : List (Text × Text) := [("crudgen_layout__routes", "r")]

theorem keysApart_later : ∀ entry ∈ later, ∀ keys, Environment.keys? entry.1 = some keys →
    KeysApart Key.models.parts keys := by
  intro entry hentry keys hkeys
  obtain rfl := List.mem_singleton.1 hentry
  obtain rfl : [("layout" : Text), ("routes" : Text)] = keys := Option.some.inj hkeys
  decide

/-- A text that only begins like a number stands for itself. -/
theorem load_override_word :
    loaded keyed [] ⟨"."⟩ none (earlier ++ (Key.models.variable, ("5a" : Text)) :: later) =
      .ok (set { extension := "mjs", layout := { routes := ⟨"r"⟩ } } .models "5a") :=
  (load_override (by decide) (keys?_variable .models) keysApart_later (.inr (by decide +kernel))
    (eq_ok_of_toOption (by decide +kernel)) (by decide)).1.2 (by decide +kernel)

/-! ### Variables that do not set what they say -/

/-- Whether the variable for a key sets the text that it has, and nothing else, if settings can be loaded
without it. -/
def SetsVerbatim (t : FileTree) (cwd : Place) (root : Path) (chosen? : Option Path)
    (before after : List (Text × Text)) (key : Key) (v : Text) : Prop :=
  ∀ s, loaded t cwd root chosen? (before ++ after) = .ok s →
    loaded t cwd root chosen? (before ++ (key.variable, v) :: after) = .ok (s.set key v)

theorem not_setsVerbatim_of_ne (hbelow : (loaded t cwd root chosen? (before ++ after)).toOption = some s)
    (hne : (loaded t cwd root chosen? (before ++ (key.variable, v) :: after)).toOption ≠ some (s.set key v)) :
    ¬SetsVerbatim t cwd root chosen? before after key v :=
  fun h => hne (congrArg Except.toOption (h s (eq_ok_of_toOption hbelow)))

/-- A number is refused, a directory over a layout that is a list takes the others back to their built-in
places, and a later variable for the same key wins. -/
theorem not_setsVerbatim_number_list_later :
    ¬SetsVerbatim .empty [] ⟨"."⟩ none [] [] .extension "5" ∧
    ¬SetsVerbatim (saying "layout = [\"m\", \"v\", \"c\", \"r\", \"w\"]") [] ⟨"."⟩ none [] [] .models "envm" ∧
    ¬SetsVerbatim .empty [] ⟨"."⟩ none [] [("crudgen_extension", "ts")] .extension "mjs" := by
  refine ⟨?number, ?list, ?later⟩
  case number => exact not_setsVerbatim_of_ne (s := {}) (by decide +kernel) (by decide +kernel)
  case list =>
    exact not_setsVerbatim_of_ne (s := { layout := ⟨⟨"m"⟩, ⟨"v"⟩, ⟨"c"⟩, ⟨"r"⟩, ⟨"w"⟩⟩ }) (by decide +kernel)
      (by decide +kernel)
  case later => exact not_setsVerbatim_of_ne (s := { extension := "ts" }) (by decide +kernel) (by decide +kernel)

end Settings

end CrudScaffold
