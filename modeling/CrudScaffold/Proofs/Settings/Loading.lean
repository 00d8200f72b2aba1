import CrudScaffold.Proofs.Settings.Layering
import CrudScaffold.Proofs.Settings.Reading

set_option autoImplicit false

/-! # Loading settings, one key at a time

A file that is found is taken in as a layer of settings if its text is readable (`Settings.isReadable`), and
the environment always makes a layer. What is loaded is then told by the layers (`Settings.load_layered`). -/

namespace CrudScaffold

/-! ## Documents that can be taken in -/

namespace Toml

mutual

/-- Whether every table in a value that tells by a number where it comes from tells it by an integer. -/
def hasNumberedOrigins : Toml → Bool
  | .array items => itemsHaveNumberedOrigins items
  | .table entries =>
    (match entries.lookup Setting.originKey with
      | none | some (.integer _) => true
      | some _ => false) && entriesHaveNumberedOrigins entries
  | _ => true

/-- Whether all items of an array have numbered origins. -/
def itemsHaveNumberedOrigins : List Toml → Bool
  | [] => true
  | item :: items => item.hasNumberedOrigins && itemsHaveNumberedOrigins items

/-- Whether all entries of a table have numbered origins. -/
def entriesHaveNumberedOrigins : List (Text × Toml) → Bool
  | [] => true
  | (_, value) :: entries => value.hasNumberedOrigins && entriesHaveNumberedOrigins entries

end

end Toml

namespace Setting

mutual

theorem isSome_ofToml? (origin : Origin) (value : Toml) :
    (ofToml? origin value).isSome = value.hasNumberedOrigins := by
  cases value with
  | text | integer | real | bool | date => rfl
  | array items =>
    rw [ofToml?, Toml.hasNumberedOrigins, Option.isSome_map, isSome_ofTomlItems? origin items]
  | table entries =>
    have hentries := isSome_ofTomlEntries? origin entries
    rw [ofToml?, Toml.hasNumberedOrigins, ← hentries]
    cases entries.lookup originKey with
    | none => simp
    | some number => cases number <;> simp

theorem isSome_ofTomlItems? (origin : Origin) (items : List Toml) :
    (ofTomlItems? origin items).isSome = Toml.itemsHaveNumberedOrigins items := by
  cases items with
  | nil => rfl
  | cons item items =>
    rw [ofTomlItems?, Toml.itemsHaveNumberedOrigins, ← isSome_ofToml? origin item,
      ← isSome_ofTomlItems? origin items]
    cases ofToml? origin item <;> cases ofTomlItems? origin items <;> rfl

theorem isSome_ofTomlEntries? (origin : Origin) (entries : List (Text × Toml)) :
    (ofTomlEntries? origin entries).isSome = Toml.entriesHaveNumberedOrigins entries := by
  cases entries with
  | nil => rfl
  | cons entry entries =>
    obtain ⟨key, value⟩ := entry
    rw [ofTomlEntries?, Toml.entriesHaveNumberedOrigins, ← isSome_ofToml? origin value,
      ← isSome_ofTomlEntries? origin entries]
    cases ofToml? origin value <;> cases ofTomlEntries? origin entries <;> rfl

end

end Setting

namespace Settings

/-- Whether a text can be taken in as a file of settings: it is a document, and the numbers by which its
tables tell where they come from, if they do, are integers. -/
def isReadable (content : Text) : Bool := (Toml.read? content).any Toml.entriesHaveNumberedOrigins

/-- Whether the file that was found, if one was, can be taken in. -/
def isReadableIfFound (found? : Option (Path × Text)) : Bool := found?.all fun found => isReadable found.2

theorem isSome_foundLayer? (cwd : Path) (found? : Option (Path × Text)) :
    (foundLayer? cwd found?).isSome = isReadableIfFound found? := by
  cases found? with
  | none => rfl
  | some found =>
    obtain ⟨found, content⟩ := found
    simp only [foundLayer?, isReadableIfFound, isReadable, Option.all_some, Option.isSome_map]
    cases Toml.read? content with
    | none => rfl
    | some entries => exact Setting.isSome_ofTomlEntries? _ entries

theorem isTable_of_foundLayer? {cwd : Path} {found? : Option (Path × Text)} {file : Setting}
    (h : foundLayer? cwd found? = some file) : file.IsTable := by
  cases found? with
  | none => exact ⟨_, _, (Option.some.inj h).symm⟩
  | some found =>
    obtain ⟨entries, -, hfile⟩ := Option.map_eq_some_iff.1 h
    exact ⟨_, entries, hfile.symm⟩

end Settings

/-! ## The layer of the environment -/

theorem Environment.keys?_ne_nil {name : Text} {keys : List Text} (h : keys? name = some keys) :
    keys ≠ [] := by
  unfold keys? at h
  split at h
  · simp at h
  · dsimp only at h
    split at h
    · simp at h
    · obtain rfl := Option.some.inj h
      exact Text.splitOn_ne_nil _ _

/-- No variable makes the layer of an environment anything but a table. -/
theorem Environment.isTable_layer (environment : List (Text × Text)) : (layer environment).IsTable := by
  unfold layer
  generalize hstart : Setting.table .environment [] = start
  have htable : start.IsTable := ⟨_, _, hstart.symm⟩
  clear hstart
  induction environment generalizing start with
  | nil => exact htable
  | cons entry environment ih =>
    obtain ⟨name, text⟩ := entry
    rw [List.foldl_cons]
    refine ih _ ?_
    dsimp only
    split
    · exact htable
    · next keys hkeys =>
      cases keys with
      | nil => exact absurd rfl (keys?_ne_nil hkeys)
      | cons key keys => exact htable.overlay ⟨_, _, rfl⟩

namespace Settings

/-! ## Loading -/

/-- **Layers of settings.** A file that is found but cannot be taken in is an error. Otherwise settings are
loaded exactly if under every key the highest layer that has it has a text. They are these texts, but for
the root, which is as it is given. If there are others, the first key in order at which the highest value
is no text is named, with what that value is and where it comes from. -/
theorem load_layered {t : FileTree} {cwd : Place} {root : Path} {file? : Option Path}
    {environment : List (Text × Text)} {found? : Option (Path × Text)}
    (hfound : t.firstFile? cwd (candidates cwd.path (file?.getD (root.join fileName))) = found?)
    (hfile : (foundLayer? cwd.path found?).all Setting.layoutIsTable = true)
    (henvironment : (Environment.layer environment).layoutIsTable = true) :
    (isReadableIfFound found? = false →
      (load (FileTree.disk cwd) cwd.path root file? environment).run t = (.error .malformed, t)) ∧
    (isReadableIfFound found? = true → ∃ file, foundLayer? cwd.path found? = some file ∧
      ((∃ settings, (load (FileTree.disk cwd) cwd.path root file? environment).run t = (.ok settings, t)) ↔
        ∀ key, (text? (layers root file (Environment.layer environment)) key).isSome = true) ∧
      (∀ settings,
        (load (FileTree.disk cwd) cwd.path root file? environment).run t = (.ok settings, t) →
          settings.root = root ∧ ∀ key, key ≠ .root →
            text? (layers root file (Environment.layer environment)) key = some (key.value settings)) ∧
      ∀ key, firstOffending? (layers root file (Environment.layer environment)) = some key →
        ∃ value error,
          Setting.highest? key.parts (layers root file (Environment.layer environment)) = some value ∧
          (load (FileTree.disk cwd) cwd.path root file? environment).run t = (.error error, t) ∧
          error.key = List.intercalate ['.'] key.parts ∧
          error.message = (SettingsError.wrongType value key.expected key.parts).message) := by
  have hrun := run_load t cwd cwd.path root file? environment
  rw [hfound, outcome] at hrun
  constructor
  · intro hreadable
    rw [← isSome_foundLayer? cwd.path, Option.isSome_eq_false_iff, Option.isNone_iff_eq_none] at hreadable
    rw [hrun, hreadable]
  · intro hreadable
    rw [← isSome_foundLayer? cwd.path] at hreadable
    obtain ⟨file, hlayer⟩ := Option.isSome_iff_exists.1 hreadable
    rw [hlayer, Option.all_some] at hfile
    rw [hlayer] at hrun
    have hresult : ∀ result, (load (FileTree.disk cwd) cwd.path root file? environment).run t =
        (result, t) ↔ ofLayers root file (Environment.layer environment) = result := by
      intro result
      rw [hrun]
      exact ⟨fun h => (Prod.mk.inj h).1, fun h => congrArg (·, t) h⟩
    simp only [hresult]
    exact ⟨file, hlayer, ofLayers_layered (isTable_of_foundLayer? hlayer) hfile
      (Environment.isTable_layer environment) henvironment root⟩

/-- A tree with a file of settings that tells a root and has a number where the directory of routes
should be. -/
def overlapping : FileTree :=
  (FileTree.empty.put "app" [] .directory).put "crudgen.toml" ["app"]
    (.file "extension = \"ts\"\nroot = \"/elsewhere\"\n[layout]\nmodels = \"schemas\"\nroutes = 5\n")

/-- An environment that lays a text over that number. -/
def overlappingEnvironment : List (Text × Text) := [("CRUDGEN_LAYOUT__ROUTES", "'r'")]

/-- What stands under the keys if that environment is laid over that file. -/
def overlapped : Settings :=
  { root := ⟨"/elsewhere"⟩, extension := "ts", layout := { models := ⟨"schemas"⟩, routes := ⟨"r"⟩ } }

/-- Each key has its own highest layer, and the root is the given one. -/
theorem load_layered_overlapping :
    ∃ settings : Settings,
      (load (FileTree.disk ["app"]) (Place.path ["app"]) ⟨"."⟩ none overlappingEnvironment).run overlapping =
        (.ok settings, overlapping) ∧
      settings.root = ⟨"."⟩ ∧ ∀ key : Key, key ≠ .root → key.value settings = key.value overlapped := by
  generalize hfound : overlapping.firstFile? ["app"]
    (candidates (Place.path ["app"]) ((none : Option Path).getD ((Path.mk ".").join fileName))) = found?
  have htable : (foundLayer? (Place.path ["app"]) found?).all Setting.layoutIsTable = true := by
    rw [← hfound]
    decide +kernel
  have htable' : (Environment.layer overlappingEnvironment).layoutIsTable = true := by decide +kernel
  have hreadable : isReadableIfFound found? = true := by
    rw [← hfound]
    decide +kernel
  have htext : ∀ key ∈ Key.all, (foundLayer? (Place.path ["app"]) found?).bind (fun file =>
      text? (layers ⟨"."⟩ file (Environment.layer overlappingEnvironment)) key) =
        some (key.value overlapped) := by
    rw [← hfound]
    decide +kernel
  obtain ⟨file, hlayer, hok, hvalues, -⟩ := (load_layered hfound htable htable').2 hreadable
  simp only [hlayer, Option.bind_some] at htext
  obtain ⟨settings, hsettings⟩ := hok.2 fun key => by rw [htext key key.mem_all]; rfl
  obtain ⟨hroot, hvalue⟩ := hvalues settings hsettings
  refine ⟨settings, hsettings, hroot, fun key hkey => ?_⟩
  exact Option.some.inj ((hvalue key hkey).symm.trans (htext key key.mem_all))

end Settings

end CrudScaffold
