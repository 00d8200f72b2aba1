import CrudScaffold.Proofs.Settings.Difference

set_option autoImplicit false

/-! # Roots in the layers

The root of a project is given, and a root that a file or the environment tells is not used. It is read
nevertheless: one that is no text is refused like any other setting of a wrong type, although nothing would
have come of it (`Settings.not_rootIsInert_number`). So the roots of the layers leave what is loaded as it is
exactly as long as the highest one is a text, or other settings are wrong already
(`Settings.load_eq_load_iff_of_root`). -/

namespace CrudScaffold

namespace Setting

variable {origin : Origin} {key : Text} {entries : List (Text × Toml)} {settings : List (Text × Setting)}

/-- What stands under a key of a document is taken in under the same key. -/
theorem lookup_ofTomlEntries? (h : ofTomlEntries? origin entries = some settings) (key : Text) :
    settings.lookup key = (entries.lookup key).bind (ofToml? origin) := by
  induction entries generalizing settings with
  | nil =>
    obtain rfl := Option.some.inj h
    rfl
  | cons entry entries ih =>
    obtain ⟨name, value⟩ := entry
    rw [ofTomlEntries?] at h
    obtain ⟨first, hfirst, h⟩ := Option.bind_eq_some_iff.1 h
    obtain ⟨later, hlater, h⟩ := Option.bind_eq_some_iff.1 h
    obtain rfl := Option.some.inj h
    rw [List.lookup_cons, List.lookup_cons, ih hlater]
    cases key == name with
    | true => exact hfirst.symm
    | false => rfl

end Setting

namespace Settings

open Setting

/-! ## Roots that make no difference -/

/-- A document without its root. -/
def withoutRoot (document : List (Text × Toml)) : List (Text × Toml) :=
  document.filter fun entry => entry.1 != ("root" : Text)

/-- An environment without the variable for the root. -/
def withoutRootVariable (environment : List (Text × Text)) : List (Text × Text) :=
  environment.filter fun entry => entry.1 != ("CRUDGEN_ROOT" : Text)

/-- Whether two files, if they are found, are the same but for the root that they tell. -/
def SameFileButRoot : Option (Path × Text) → Option (Path × Text) → Prop
  | none, none => True
  | some (p, content), some (p', content') =>
    p = p' ∧ (Toml.read? content).map withoutRoot = (Toml.read? content').map withoutRoot
  | _, _ => False

/-- The file from which the settings of a project are read, with its content. -/
def file? (t : FileTree) (cwd : Place) (root : Path) (chosen? : Option Path) : Option (Path × Text) :=
  t.firstFile? cwd (candidates cwd.path (chosen?.getD (root.join fileName)))

/-- What is loaded in a state of the disk and an environment. -/
def loaded (t : FileTree) (cwd : Place) (root : Path) (chosen? : Option Path)
    (environment : List (Text × Text)) : Except SettingsError Settings :=
  ((load (FileTree.disk cwd) cwd.path root chosen? environment).run t).1

/-- Whether what is loaded depends on no root that the file or the environment tells. -/
def RootIsInert (cwd : Place) (root : Path) (chosen? : Option Path) : Prop :=
  ∀ (t t' : FileTree) (environment environment' : List (Text × Text)),
    SameFileButRoot (file? t cwd root chosen?) (file? t' cwd root chosen?) →
      withoutRootVariable environment = withoutRootVariable environment' →
        loaded t cwd root chosen? environment = loaded t' cwd root chosen? environment'

/-- Whether the file, if one is found, can be taken in, and the highest layer with a root has a text for it. -/
def hasTextRoot (cwd root : Path) (found? : Option (Path × Text)) (environment : List (Text × Text)) : Bool :=
  (foundLayer? cwd found?).any fun file =>
    (text? (layers root file (Environment.layer environment)) .root).isSome

/-! ## Layers that differ in their roots -/

variable {t t' : FileTree} {cwd : Place} {root p : Path} {chosen? : Option Path}
  {found? found?' : Option (Path × Text)} {file file' : Setting}
  {environment environment' : List (Text × Text)} {layer : Setting}

theorem lookup_withoutRoot {document : List (Text × Toml)} {key : Text} (h : key ≠ ("root" : Text)) :
    (withoutRoot document).lookup key = document.lookup key :=
  lookup_filter_of_test (· != ("root" : Text)) document key (by simpa using h)

theorem agreeBut_foundLayer? (hsame : SameFileButRoot found? found?')
    (h : foundLayer? cwd.path found? = some file) (h' : foundLayer? cwd.path found?' = some file') :
    AgreeBut "root" file file' := by
  refine ⟨isTable_of_foundLayer? h, isTable_of_foundLayer? h', fun key hkey => ?_⟩
  match found?, found?', hsame with
  | none, none, _ => rw [← Option.some.inj h, ← Option.some.inj h']
  | some (p, content), some (_, content'), ⟨rfl, hdocuments⟩ =>
    obtain ⟨entries, hentries, rfl⟩ := Option.map_eq_some_iff.1 h
    obtain ⟨entries', hentries', rfl⟩ := Option.map_eq_some_iff.1 h'
    obtain ⟨document, hdocument, htaken⟩ := Option.bind_eq_some_iff.1 hentries
    obtain ⟨document', hdocument', htaken'⟩ := Option.bind_eq_some_iff.1 hentries'
    rw [hdocument, hdocument'] at hdocuments
    have hother := congrArg (List.lookup key) (Option.some.inj hdocuments)
    rw [lookup_withoutRoot hkey, lookup_withoutRoot hkey] at hother
    rw [Setting.key?, Setting.key?, lookup_ofTomlEntries? htaken, lookup_ofTomlEntries? htaken', hother]

theorem keys?_rootVariable : Environment.keys? "CRUDGEN_ROOT" = some [("root" : Text)] := rfl

theorem agreeBut_foldl_withoutRootVariable {s s' : Setting} (h : AgreeBut "root" s s')
    (environment : List (Text × Text)) :
    AgreeBut "root" ((withoutRootVariable environment).foldl Environment.addVariable s)
      (environment.foldl Environment.addVariable s') := by
  induction environment generalizing s s' with
  | nil => exact h
  | cons entry environment ih =>
    obtain ⟨name, text⟩ := entry
    rw [withoutRootVariable, List.filter_cons, List.foldl_cons, ← withoutRootVariable]
    split
    · exact ih (Environment.agreeBut_addVariable_addVariable h (name, text))
    · next hname =>
      obtain rfl : name = ("CRUDGEN_ROOT" : Text) := by simpa using hname
      exact ih (h.trans (Environment.agreeBut_addVariable h.right text keys?_rootVariable))

theorem agreeBut_layer (h : withoutRootVariable environment = withoutRootVariable environment') :
    AgreeBut "root" (Environment.layer environment) (Environment.layer environment') := by
  have hempty : AgreeBut "root" (.table .environment []) (.table .environment []) := .refl _ ⟨_, _, rfl⟩
  have hlayer := agreeBut_foldl_withoutRootVariable hempty environment
  have hlayer' := agreeBut_foldl_withoutRootVariable hempty environment'
  rw [← h] at hlayer'
  exact hlayer.symm.trans hlayer'

/-! ## What is read of the other keys -/

/-- Three layers laid over each other. -/
def merged (root : Path) (file environment : Setting) : Setting :=
  ((builtIn root).overlay file).overlay environment

/-- The settings of a project with the given root, as they are read of the other keys. -/
def ofOtherKeys (root : Path) (s : Setting) : Except SettingsError Settings := do
  let extension ← textOr "a string" ({} : Settings).extension ["extension"] (s.key? "extension")
  let layout ← layoutOr (s.key? "layout")
  return { root, extension, layout }

theorem ofOtherKeys_congr {s s' : Setting} (h : AgreeBut "root" s s') (root : Path) :
    ofOtherKeys root s' = ofOtherKeys root s := by
  rw [ofOtherKeys, ofOtherKeys, h.key?_eq "extension" (by decide), h.key?_eq "layout" (by decide)]

theorem isTableAlong_root {s : Setting} (h : s.IsTable) : IsTableAlong Key.root.parts s := by
  obtain ⟨origin, entries, rfl⟩ := h
  exact ⟨origin, entries, rfl, fun _ _ => trivial⟩

/-- When three layers are laid over each other, the root is that of the highest one that tells it. -/
theorem exists_key?_merged_root (root : Path) (hfile : file.IsTable) (hlayer : layer.IsTable) :
    ∃ value, (merged root file layer).key? "root" = some value ∧
      value.text? = text? (layers root file layer) .root := by
  have hsurface := surface_get?_layers (isTableAlong_root ⟨_, _, rfl⟩ : IsTableAlong _ (builtIn root))
    (isTableAlong_root hfile) (isTableAlong_root hlayer)
  rw [← merged, ← layers] at hsurface
  have hsome : (highest? Key.root.parts (layers root file layer)).isSome = true := by
    unfold highest? layers
    rw [List.findSome?_isSome_iff]
    exact ⟨builtIn root, by simp, rfl⟩
  obtain ⟨highest, hhighest⟩ := Option.isSome_iff_exists.1 hsome
  rw [hhighest, Option.map_some, Option.map_eq_some_iff] at hsurface
  obtain ⟨value, hvalue, hsame⟩ := hsurface
  refine ⟨value, ?_, ?_⟩
  · obtain ⟨inner, hkey, hinner⟩ := Option.bind_eq_some_iff.1 hvalue
    exact hkey.trans hinner
  · rw [text?, hhighest, Option.bind_some, ← text?_surface, hsame, text?_surface]

/-- The root in the layers is read last, and nothing comes of it if it is a text. -/
theorem exists_ofLayers_eq_ofOtherKeys (root : Path) (hfile : file.IsTable) (hlayer : layer.IsTable) :
    ∃ value : Setting, value.text? = text? (layers root file layer) .root ∧
      ofLayers root file layer =
        match ofOtherKeys root (merged root file layer) with
        | .error error => .error error
        | .ok settings =>
          if value.text?.isSome then .ok settings
          else .error (.wrongType value Key.root.expected Key.root.parts) := by
  obtain ⟨value, hkey, htext⟩ := exists_key?_merged_root root hfile hlayer
  refine ⟨value, htext, ?_⟩
  have hread : textOr "path string" ({} : Settings).root.text ["root"] ((merged root file layer).key? "root") =
      value.text "path string" ["root"] := by rw [hkey]; rfl
  unfold ofLayers ofOtherKeys
  rw [← merged]
  simp only [settings_entries, hread, text_eq]
  cases textOr "a string" ({} : Settings).extension ["extension"] ((merged root file layer).key? "extension") with
  | error error => rfl
  | ok extension =>
    cases layoutOr ((merged root file layer).key? "layout") with
    | error error => rfl
    | ok layout => cases value.text? <;> rfl

/-! ## What is loaded -/

theorem loaded_eq_ofLayers (h : foundLayer? cwd.path (file? t cwd root chosen?) = some file)
    (environment : List (Text × Text)) :
    loaded t cwd root chosen? environment = ofLayers root file (Environment.layer environment) := by
  rw [loaded, run_load, ← file?, outcome, h]

theorem loaded_eq_malformed (h : foundLayer? cwd.path (file? t cwd root chosen?) = none)
    (environment : List (Text × Text)) : loaded t cwd root chosen? environment = .error .malformed := by
  rw [loaded, run_load, ← file?, outcome, h]

/-- **Roots in the layers.** Let the root of the highest layer with one be a text, or no layer tell a root.
Then another root in the file or in the environment leaves what is loaded as it is exactly if the file can
still be taken in, and either the highest root is a text again or other settings are wrong in any case.
Otherwise loading fails for the root alone. -/
theorem load_eq_load_iff_of_root
    (hfile : SameFileButRoot (file? t cwd root chosen?) (file? t' cwd root chosen?))
    (henvironment : withoutRootVariable environment = withoutRootVariable environment')
    (htext : hasTextRoot cwd.path root (file? t cwd root chosen?) environment = true) :
    (loaded t' cwd root chosen? environment' = loaded t cwd root chosen? environment ↔
      hasTextRoot cwd.path root (file? t' cwd root chosen?) environment' = true ∨
        isReadableIfFound (file? t' cwd root chosen?) = true ∧
          ∃ error, loaded t cwd root chosen? environment = .error error) ∧
    (loaded t' cwd root chosen? environment' ≠ loaded t cwd root chosen? environment →
      isReadableIfFound (file? t' cwd root chosen?) = false ∧
          loaded t' cwd root chosen? environment' = .error .malformed ∨
        ∃ value : Setting, value.text? = none ∧
          loaded t' cwd root chosen? environment' = .error (.wrongType value "path string" ["root"])) := by
  obtain ⟨file, hlayer, htext⟩ := (Option.any_eq_true _ _).1 htext
  rw [loaded_eq_ofLayers hlayer, hasTextRoot, ← isSome_foundLayer? cwd.path]
  cases hlayer' : foundLayer? cwd.path (file? t' cwd root chosen?) with
  | none =>
    rw [loaded_eq_malformed hlayer']
    have hne : Except.error SettingsError.malformed ≠ ofLayers root file (Environment.layer environment) :=
      (failsByType_ofLayers root file (Environment.layer environment)).symm
    simp [hne]
  | some file' =>
    have hagree := ((AgreeBut.refl "root" (⟨_, _, rfl⟩ : (builtIn root).IsTable)).overlay
      (agreeBut_foundLayer? hfile hlayer hlayer')).overlay (agreeBut_layer henvironment)
    rw [loaded_eq_ofLayers hlayer', Option.any_some]
    obtain ⟨value, hvalue, hread⟩ := exists_ofLayers_eq_ofOtherKeys root (isTable_of_foundLayer? hlayer)
      (Environment.isTable_layer environment)
    obtain ⟨value', hvalue', hread'⟩ := exists_ofLayers_eq_ofOtherKeys root (isTable_of_foundLayer? hlayer')
      (Environment.isTable_layer environment')
    rw [← hvalue] at htext
    rw [← hvalue', hread, hread', merged, merged, ofOtherKeys_congr hagree]
    cases ofOtherKeys root (((builtIn root).overlay file).overlay (Environment.layer environment)) with
    | error error => simp
    | ok settings =>
      dsimp only
      rw [if_pos htext]
      cases htext' : value'.text? with
      | some text => simp
      | none =>
        refine ⟨⟨nofun, ?_⟩, fun _ => .inr ⟨value', htext', rfl⟩⟩
        rintro (h | ⟨-, error, h⟩) <;> cases h

/-! ### A number for a root -/

/-- A tree with a file of settings that says so much and no more. -/
def saying (content : Text) : FileTree := FileTree.empty.put "crudgen.toml" [] (.file content)

/-- Whether a file says nothing but a root at most. -/
def saysRootAtMost (found : Path × Text) : Bool := ((Toml.read? found.2).map withoutRoot).any List.isEmpty

theorem sameFileButRoot_of_saysRootAtMost (hpath : found?.map Prod.fst = found?'.map Prod.fst)
    (h : found?.any saysRootAtMost = true) (h' : found?'.any saysRootAtMost = true) :
    SameFileButRoot found? found?' := by
  obtain ⟨found, rfl, hroot⟩ := (Option.any_eq_true _ _).1 h
  obtain ⟨found', rfl, hroot'⟩ := (Option.any_eq_true _ _).1 h'
  obtain ⟨document, hdocument, hempty⟩ := (Option.any_eq_true _ _).1 hroot
  obtain ⟨document', hdocument', hempty'⟩ := (Option.any_eq_true _ _).1 hroot'
  refine ⟨Option.some.inj hpath, ?_⟩
  rw [hdocument, hdocument', List.isEmpty_iff.1 hempty, List.isEmpty_iff.1 hempty']

/-- A number in the file does nothing if a variable tells a text. -/
theorem load_eq_load_iff_of_root_covered :
    loaded (saying "root = 5") [] ⟨"."⟩ none [("CRUDGEN_ROOT", "b")] =
      loaded (saying "root = 'a'") [] ⟨"."⟩ none [] :=
  (load_eq_load_iff_of_root
    (sameFileButRoot_of_saysRootAtMost (by decide +kernel) (by decide +kernel) (by decide +kernel))
    (by decide +kernel) (by decide +kernel)).1.2 (.inl (by decide +kernel))

/-- A number in the file is refused, although the root is given. -/
theorem not_rootIsInert_number : ¬RootIsInert [] ⟨"."⟩ none := by
  intro h
  have hsame := h (saying "") (saying "root = 5") [] []
    (sameFileButRoot_of_saysRootAtMost (by decide +kernel) (by decide +kernel) (by decide +kernel)) rfl
  have hok := congrArg Except.isOk hsame
  revert hok
  decide +kernel

end Settings

end CrudScaffold
