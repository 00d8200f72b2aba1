import CrudScaffold.Settings.Load

set_option autoImplicit false

/-! # Layers of settings, one key at a time

Three layers are laid over each other and then read. Key by key, what is read is what stands in the
highest layer that has the key, as long as what is on the way to it is a table in every layer
(`Setting.surface_get?_overlay`). So each setting is told by its own key alone, and reading fails at the
first key at which the highest value is no text (`Settings.ofLayers_layered`). -/

namespace CrudScaffold

namespace Setting

variable {lower upper file environment : Setting} {keys : List Text}

/-! ## What an upper layer leaves to be seen -/

/-- A setting without what it holds inside. Messages say no more of it, and a text is as it was. -/
def surface : Setting → Setting
  | scalar origin value => scalar origin value
  | list origin _ => list origin []
  | table origin _ => table origin []

/-- The text that a setting is, if it is one. -/
def text? : Setting → Option Text
  | scalar _ (.text value) => some value
  | _ => none

theorem surface_overlay (lower upper : Setting) : (lower.overlay upper).surface = upper.surface := by
  cases lower <;> cases upper <;> rfl

theorem text?_surface (s : Setting) : s.surface.text? = s.text? := by
  cases s <;> rfl

theorem message_surface (s : Setting) (expected : Text) (key : List Text) :
    (SettingsError.wrongType s.surface expected key).message =
      (SettingsError.wrongType s expected key).message := by
  cases s <;> rfl

/-- Whether a setting is a table. -/
def IsTable (s : Setting) : Prop := ∃ origin entries, s = table origin entries

theorem IsTable.overlay (hlower : lower.IsTable) (hupper : upper.IsTable) :
    (lower.overlay upper).IsTable := by
  obtain ⟨o, below, rfl⟩ := hlower
  obtain ⟨o', above, rfl⟩ := hupper
  rw [Setting.overlay]
  exact ⟨_, _, rfl⟩

/-- Whether all that is on the way along some keys is a table. -/
def IsTableAlong : List Text → Setting → Prop
  | [], _ => True
  | key :: keys, s => ∃ origin entries, s = table origin entries ∧
    ∀ value, entries.lookup key = some value → IsTableAlong keys value

theorem IsTableAlong.overlay (hlower : IsTableAlong keys lower) (hupper : IsTableAlong keys upper) :
    IsTableAlong keys (lower.overlay upper) := by
  induction keys generalizing lower upper with
  | nil => trivial
  | cons key keys ih =>
    obtain ⟨o, below, rfl, hbelow⟩ := hlower
    obtain ⟨o', above, rfl, habove⟩ := hupper
    refine ⟨_, _, by rw [Setting.overlay], fun value hvalue => ?_⟩
    have hkey := key?_overlay o o' below above key
    rw [Setting.overlay, key?, hvalue] at hkey
    cases hlow : below.lookup key with
    | none =>
      rw [hlow] at hkey
      exact habove value hkey.symm
    | some low =>
      rw [hlow] at hkey
      obtain rfl := Option.some.inj hkey
      cases hup : above.lookup key with
      | none => exact hbelow low hlow
      | some up => exact ih (hbelow low hlow) (habove up hup)

/-- **One key of two layers.** What stands at the end of some keys in one layer laid over another is, on
its surface, what stands there in the upper one, or else in the lower one. -/
theorem surface_get?_overlay (hlower : IsTableAlong keys lower) (hupper : IsTableAlong keys upper) :
    ((lower.overlay upper).get? keys).map surface =
      (upper.get? keys <|> lower.get? keys).map surface := by
  induction keys generalizing lower upper with
  | nil => exact congrArg some (surface_overlay lower upper)
  | cons key keys ih =>
    obtain ⟨o, below, rfl, hbelow⟩ := hlower
    obtain ⟨o', above, rfl, habove⟩ := hupper
    rw [get?, get?, get?, key?_overlay, key?, key?]
    cases hlow : below.lookup key with
    | none => simp
    | some low =>
      cases hup : above.lookup key with
      | none => simp
      | some up => exact ih (hbelow low hlow) (habove up hup)

/-- What stands at the end of some keys in the first of some layers that has anything there. -/
def highest? (keys : List Text) (layers : List Setting) : Option Setting := layers.findSome? (get? keys)

theorem surface_get?_layers (hlower : IsTableAlong keys lower) (hfile : IsTableAlong keys file)
    (henvironment : IsTableAlong keys environment) :
    (((lower.overlay file).overlay environment).get? keys).map surface =
      (highest? keys [environment, file, lower]).map surface := by
  rw [surface_get?_overlay (hlower.overlay hfile) henvironment]
  unfold highest?
  simp only [List.findSome?_cons, List.findSome?_nil]
  cases environment.get? keys with
  | some value => rfl
  | none =>
    have htwo := surface_get?_overlay hlower hfile
    cases hget : file.get? keys <;> cases hget' : lower.get? keys <;> simpa [hget, hget'] using htwo

/-- Whether what stands under the key of the layout, if anything does, is a table. -/
def layoutIsTable (s : Setting) : Bool :=
  match s.key? "layout" with
  | none | some (table ..) => true
  | _ => false

theorem isTable_of_layoutIsTable {s value : Setting} (h : s.layoutIsTable = true)
    (hvalue : s.key? "layout" = some value) : value.IsTable := by
  rw [layoutIsTable, hvalue] at h
  cases value with
  | table origin entries => exact ⟨origin, entries, rfl⟩
  | scalar => simp at h
  | list => simp at h

theorem text_eq (s : Setting) (expected : Text) (key : List Text) :
    s.text expected key =
      match s.text? with
      | some value => .ok value
      | none => .error (.wrongType s expected key) := by
  cases s with
  | scalar origin value => cases value <;> rfl
  | list origin items => rfl
  | table origin entries => rfl

end Setting

/-! ## Keys -/

namespace Settings

/-- The keys that settings are read from. -/
inductive Key where
  | extension
  | controllers
  | middlewares
  | models
  | routes
  | validations
  | root
  deriving DecidableEq

namespace Key

/-- All keys, in the order in which they are checked. -/
def all : List Key := [extension, controllers, middlewares, models, routes, validations, root]

/-- The parts of a key. -/
def parts : Key → List Text
  | extension => ["extension"]
  | controllers => ["layout", "controllers"]
  | middlewares => ["layout", "middlewares"]
  | models => ["layout", "models"]
  | routes => ["layout", "routes"]
  | validations => ["layout", "validations"]
  | root => ["root"]

/-- What must stand under a key, in the words of a message. -/
def expected : Key → Text
  | extension => "a string"
  | _ => "path string"

/-- What settings have under a key. -/
def value (settings : Settings) : Key → Text
  | extension => settings.extension
  | controllers => settings.layout.controllers.text
  | middlewares => settings.layout.middlewares.text
  | models => settings.layout.models.text
  | routes => settings.layout.routes.text
  | validations => settings.layout.validations.text
  | root => settings.root.text

theorem mem_all (key : Key) : key ∈ all := by cases key <;> decide

end Key

/-- The settings that have some texts under the keys. -/
def ofTexts (text : Key → Text) : Settings where
  root := ⟨text .root⟩
  extension := text .extension
  layout :=
    { models := ⟨text .models⟩
      validations := ⟨text .validations⟩
      controllers := ⟨text .controllers⟩
      routes := ⟨text .routes⟩
      middlewares := ⟨text .middlewares⟩ }

theorem value_with_root {settings : Settings} {key : Key} (root : Path) (h : key ≠ .root) :
    key.value { settings with root } = key.value settings := by
  cases key with
  | root => exact absurd rfl h
  | _ => rfl

theorem value_ofTexts (text : Key → Text) (key : Key) : key.value (ofTexts text) = text key := by
  cases key <;> rfl

end Settings

/-! ## Reading the keys -/

namespace Settings

open Setting

/-- The text that is read at the place of a key: a default if nothing stands there. -/
def textOr (expected default : Text) (key : List Text) : Option Setting → Except SettingsError Text
  | none => .ok default
  | some value => value.text expected key

/-- The layout that is read at its place. -/
def layoutOr : Option Setting → Except SettingsError Layout
  | none => .ok {}
  | some value => value.layout

theorem lookup_entries (s : Setting) (k : Text) : s.entries.lookup k = s.key? k := by
  cases s <;> rfl

theorem textAt_eq_textOr (expected default : Text) (path : List Text) (k : Text)
    (entries : List (Text × Setting)) :
    textAt expected path k default entries = textOr expected default (path ++ [k]) (entries.lookup k) := by
  rw [textAt]
  cases entries.lookup k <;> rfl

/-- Settings are read from three keys, one after the other. -/
theorem settings_entries (s : Setting) :
    Setting.settings s.entries = do
      let extension ← textOr "a string" ({} : Settings).extension ["extension"] (s.key? "extension")
      let layout ← layoutOr (s.key? "layout")
      let root ← textOr "path string" ({} : Settings).root.text ["root"] (s.key? "root")
      return { root := ⟨root⟩, extension, layout } := by
  unfold Setting.settings
  simp only [textAt_eq_textOr, lookup_entries]
  cases s.key? "layout" <;> rfl

/-- What is read of a setting under a key: the built-in text if nothing is there. -/
def read (s : Setting) (key : Key) : Except SettingsError Text :=
  textOr key.expected (key.value {}) key.parts (s.get? key.parts)

/-- The layout that is read key by key. -/
def layoutOfReads (read : Key → Except SettingsError Text) : Except SettingsError Layout := do
  let controllers ← read .controllers
  let middlewares ← read .middlewares
  let models ← read .models
  let routes ← read .routes
  let validations ← read .validations
  return {
    models := ⟨models⟩, validations := ⟨validations⟩, controllers := ⟨controllers⟩, routes := ⟨routes⟩
    middlewares := ⟨middlewares⟩ }

/-- The settings that are read key by key. -/
def ofReads (read : Key → Except SettingsError Text) : Except SettingsError Settings := do
  let extension ← read .extension
  let layout ← layoutOfReads read
  let root ← read .root
  return { root := ⟨root⟩, extension, layout }

theorem get?_singleton (s : Setting) (name : Text) : s.get? [name] = s.key? name := by
  rw [get?]
  cases s.key? name <;> rfl

theorem read_of_parts {name : Text} (s : Setting) (key : Key) (h : key.parts = [("layout" : Text), name]) :
    read s key = textOr key.expected (key.value {}) key.parts ((s.key? "layout").bind (key? name)) := by
  rw [read, h, get?, funext fun layout => get?_singleton layout name]

theorem map_bind {α β γ : Type} (result : Except SettingsError α) (f : α → β)
    (g : β → Except SettingsError γ) :
    result.map f >>= g = result >>= fun a => g (f a) := by
  cases result <;> rfl

/-- A layout that is a table is read key by key, and so is one that is not there. -/
theorem layoutOr_eq_layoutOfReads {s : Setting} (hlayout : s.layoutIsTable = true) :
    layoutOr (s.key? "layout") = layoutOfReads (read s) := by
  unfold layoutOfReads
  rw [read_of_parts s .controllers rfl, read_of_parts s .middlewares rfl, read_of_parts s .models rfl,
    read_of_parts s .routes rfl, read_of_parts s .validations rfl]
  cases hfound : s.key? "layout" with
  | none => rfl
  | some layout =>
    obtain ⟨origin, entries, rfl⟩ := isTable_of_layoutIsTable hlayout hfound
    simp only [layoutOr, Setting.layout, layoutOfTable, layoutPath, textAt_eq_textOr, map_bind]
    rfl

/-- Settings are read key by key if their layout is. -/
theorem settings_eq_ofReads {s : Setting} (hlayout : s.layoutIsTable = true) :
    Setting.settings s.entries = ofReads (read s) := by
  rw [settings_entries, layoutOr_eq_layoutOfReads hlayout, ← get?_singleton, ← get?_singleton]
  rfl

end Settings

theorem Setting.settings_eq {o : Origin} {entries : List (Text × Setting)} {found : Settings.Key → Setting}
    (hfound : ∀ key : Settings.Key, (table o entries).get? key.parts = some (found key)) :
    settings entries =
      match Settings.Key.all.find? fun key => (found key).text?.isNone with
      | some key => .error (.wrongType (found key) key.expected key.parts)
      | none => .ok (Settings.ofTexts fun key => (found key).text?.getD []) := by
  have hlayout : (table o entries).layoutIsTable = true := by
    obtain ⟨layout, hlayout, hmodels⟩ := Option.bind_eq_some_iff.1 (hfound .models)
    rw [layoutIsTable, hlayout]
    cases layout with
    | table => rfl
    | scalar | list => cases hmodels
  have hread : ∀ key, Settings.read (table o entries) key = (found key).text key.expected key.parts := by
    intro key
    rw [Settings.read, hfound, Settings.textOr]
  have hsettings : settings entries = Settings.ofReads (Settings.read (table o entries)) :=
    Settings.settings_eq_ofReads hlayout
  rw [hsettings, Settings.ofReads, Settings.layoutOfReads]
  simp only [hread, text_eq, Settings.Key.all, List.find?_cons, List.find?_nil, Settings.ofTexts]
  rcases (found .extension).text? with _ | extension
  · rfl
  rcases (found .controllers).text? with _ | controllers
  · rfl
  rcases (found .middlewares).text? with _ | middlewares
  · rfl
  rcases (found .models).text? with _ | models
  · rfl
  rcases (found .routes).text? with _ | routes
  · rfl
  rcases (found .validations).text? with _ | validations
  · rfl
  rcases (found .root).text? with _ | root
  · rfl
  · rfl

/-! ## The three layers -/

namespace Settings

variable {root : Path} {file environment : Setting}

/-- The layers of settings, the highest first. -/
def layers (root : Path) (file environment : Setting) : List Setting :=
  [environment, file, Setting.builtIn root]

/-- The text that stands under a key in the highest of some layers that has the key. -/
def text? (layers : List Setting) (key : Key) : Option Text :=
  (Setting.highest? key.parts layers).bind Setting.text?

theorem isTableAlong_parts {s : Setting} (htable : s.IsTable)
    (hlayout : s.layoutIsTable = true) (key : Key) : Setting.IsTableAlong key.parts s := by
  obtain ⟨origin, entries, rfl⟩ := htable
  have hparts : (∃ name, key.parts = [name]) ∨ ∃ name, key.parts = [("layout" : Text), name] := by
    cases key <;> simp [Key.parts]
  obtain ⟨name, hparts⟩ | ⟨name, hparts⟩ := hparts
  · rw [hparts]
    exact ⟨origin, entries, rfl, fun _ _ => trivial⟩
  · rw [hparts]
    refine ⟨origin, entries, rfl, fun value hvalue => ?_⟩
    obtain ⟨origin', inner, rfl⟩ := Setting.isTable_of_layoutIsTable hlayout hvalue
    exact ⟨origin', inner, rfl, fun _ _ => trivial⟩

theorem exists_builtIn_get?_eq (root : Path) (key : Key) :
    ∃ value, (Setting.builtIn root).get? key.parts = some value := by
  cases key <;> exact ⟨_, rfl⟩

/-- What is read from three layers, given what stands under the keys when they are laid over each
other. -/
theorem exists_ofLayers_eq (hfile : file.IsTable) (hfile' : file.layoutIsTable = true)
    (henvironment : environment.IsTable) (henvironment' : environment.layoutIsTable = true) (root : Path) :
    ∃ found : Key → Setting,
      (∀ key, (Setting.highest? key.parts (layers root file environment)).map Setting.surface =
        some (found key).surface) ∧
      ofLayers root file environment =
        match Key.all.find? fun key => (found key).text?.isNone with
        | some key => .error (.wrongType (found key) key.expected key.parts)
        | none => .ok { ofTexts (fun key => (found key).text?.getD []) with root } := by
  have hbuiltIn : (Setting.builtIn root).IsTable := ⟨_, _, rfl⟩
  have hsurface := fun key => Setting.surface_get?_layers (isTableAlong_parts hbuiltIn rfl key)
    (isTableAlong_parts hfile hfile' key) (isTableAlong_parts henvironment henvironment' key)
  -- The built-in layer has every key, so the merged one has.
  have hdefined : ∀ key : Key, ∃ value,
      (((Setting.builtIn root).overlay file).overlay environment).get? key.parts = some value := by
    intro key
    obtain ⟨value, hvalue⟩ := exists_builtIn_get?_eq root key
    have hsome : (Setting.highest? key.parts (layers root file environment)).isSome = true := by
      unfold Setting.highest? layers
      rw [List.findSome?_isSome_iff]
      exact ⟨Setting.builtIn root, by simp, by rw [hvalue]; rfl⟩
    have hmerged := congrArg Option.isSome (hsurface key)
    rw [Option.isSome_map, Option.isSome_map, ← layers, hsome] at hmerged
    exact Option.isSome_iff_exists.1 hmerged
  obtain ⟨found, hfound⟩ := Classical.skolem.1 hdefined
  refine ⟨found, fun key => ?_, ?_⟩
  · rw [layers, ← hsurface key, hfound key, Option.map_some]
  · obtain ⟨origin, entries, hmerged⟩ := (hbuiltIn.overlay hfile).overlay henvironment
    rw [hmerged] at hfound
    unfold ofLayers
    simp only [hmerged, Setting.entries, Setting.settings_eq hfound]
    cases Key.all.find? fun key => (found key).text?.isNone <;> rfl

/-- The key at which reading some layers fails: the first one in order at which the highest value is no
text. -/
def firstOffending? (layers : List Setting) : Option Key :=
  Key.all.find? fun key => (text? layers key).isNone

/-- What is read from three layers is told key by key. -/
theorem ofLayers_layered (hfile : file.IsTable) (hfile' : file.layoutIsTable = true)
    (henvironment : environment.IsTable) (henvironment' : environment.layoutIsTable = true) (root : Path) :
    ((∃ settings, ofLayers root file environment = .ok settings) ↔
      ∀ key, (text? (layers root file environment) key).isSome = true) ∧
    (∀ settings, ofLayers root file environment = .ok settings →
      settings.root = root ∧ ∀ key, key ≠ .root →
        text? (layers root file environment) key = some (key.value settings)) ∧
    ∀ key, firstOffending? (layers root file environment) = some key →
      ∃ value error, Setting.highest? key.parts (layers root file environment) = some value ∧
        ofLayers root file environment = .error error ∧
        error.key = List.intercalate ['.'] key.parts ∧
        error.message = (SettingsError.wrongType value key.expected key.parts).message := by
  obtain ⟨found, hsurface, hread⟩ := exists_ofLayers_eq hfile hfile' henvironment henvironment' root
  have htext : ∀ key, text? (layers root file environment) key = (found key).text? := by
    intro key
    obtain ⟨value, hvalue, hsame⟩ := Option.map_eq_some_iff.1 (hsurface key)
    rw [text?, hvalue, Option.bind_some, ← Setting.text?_surface, hsame, Setting.text?_surface]
  simp only [firstOffending?, htext, hread]
  cases hfind : Key.all.find? fun key => (found key).text?.isNone with
  | none =>
    have hsome : ∀ key, (found key).text?.isSome = true := fun key => by
      simpa [Option.isSome_iff_ne_none] using List.find?_eq_none.1 hfind key key.mem_all
    refine ⟨⟨fun _ => hsome, fun _ => ⟨_, rfl⟩⟩, ?_, fun key hkey => by cases hkey⟩
    intro settings hsettings
    obtain rfl := Except.ok.inj hsettings
    refine ⟨rfl, fun key hkey => ?_⟩
    obtain ⟨text, htext⟩ := Option.isSome_iff_exists.1 (hsome key)
    rw [value_with_root _ hkey, value_ofTexts, htext, Option.getD_some]
  | some key =>
    have hnone : (found key).text? = none := by simpa using List.find?_some hfind
    refine ⟨⟨?_, fun hall => ?_⟩, ?_, ?_⟩
    · rintro ⟨settings, hsettings⟩
      cases hsettings
    · have hkey := hall key
      rw [hnone] at hkey
      cases hkey
    · intro settings hsettings
      cases hsettings
    · intro key' hkey'
      obtain rfl := Option.some.inj hkey'
      obtain ⟨value, hvalue, hsame⟩ := Option.map_eq_some_iff.1 (hsurface key)
      refine ⟨value, _, hvalue, rfl, rfl, ?_⟩
      rw [← Setting.message_surface value, hsame, Setting.message_surface]

end Settings

end CrudScaffold
