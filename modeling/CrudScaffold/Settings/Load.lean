import CrudScaffold.FileTree.Disk
import CrudScaffold.Settings
import CrudScaffold.Settings.Environment
import CrudScaffold.Toml.Reader

set_option autoImplicit false

/-! # Loading settings

The settings of a project are read from three layers: the built-in values, a TOML file, and the
environment. The root of the project is given; a root in one of the layers must be a text but is
not used. Values of the wrong type are refused, the first one in the order of their keys.

A relative path of a file is looked for in the current directory and then in each directory above
it. A file that is not found counts as an empty layer. -/

namespace CrudScaffold

/-- Why settings cannot be loaded. -/
inductive SettingsError where
  /-- The file is not a TOML document, or one of its origins is no number. -/
  | malformed
  /-- A value is not of the type that its key asks for. -/
  | wrongType (found : Setting) (expected : Text) (key : List Text)

namespace SettingsError

/-- The key that an error is about, with points between its parts. -/
def key : SettingsError → Text
  | malformed => []
  | wrongType _ _ key => List.intercalate ['.'] key

/-- How a message names a key and the layer of its value. -/
def place (key : List Text) : Origin → Text
  | .builtIn | .unnamed => []
  | .file shown =>
    (" for key " : Text) ++ Text.quoted (List.intercalate ['.'] ("default" :: key)) ++
      (" in " : Text) ++ shown.text ++ (" TOML file" : Text)
  | .environment =>
    (" for key " : Text) ++
      Text.quoted (List.intercalate ['.'] (key.map (List.map Text.asciiUpper))) ++
      (" in \x60CRUDGEN_\x60 environment variable(s)" : Text)

/-- The text of an error. What is wrong in a malformed file is not told. -/
def message : SettingsError → Text
  | malformed => "TOML parse error"
  | wrongType found expected key =>
    ("invalid type: found " : Text) ++ found.describe ++ (", expected " : Text) ++ expected ++
      place key found.origin

end SettingsError

namespace Setting

/-- The text of a setting. -/
def text (expected : Text) (key : List Text) : Setting → Except SettingsError Text
  | scalar _ (.text value) => .ok value
  | other => .error (.wrongType other expected key)

/-- The text under a key of some entries, or a default if the key is missing. -/
def textAt (expected : Text) (path : List Text) (key default : Text)
    (entries : List (Text × Setting)) : Except SettingsError Text :=
  match entries.lookup key with
  | none => .ok default
  | some value => value.text expected (path ++ [key])

/-- The path under a key of the layout, or its default if the key is missing. -/
def layoutPath (key : Text) (default : Path) (entries : List (Text × Setting)) :
    Except SettingsError Path :=
  (textAt "path string" ["layout"] key default.text entries).map Path.mk

/-- The layout of a table. -/
def layoutOfTable (entries : List (Text × Setting)) : Except SettingsError Layout := do
  let builtIn : Layout := {}
  let controllers ← layoutPath "controllers" builtIn.controllers entries
  let middlewares ← layoutPath "middlewares" builtIn.middlewares entries
  let models ← layoutPath "models" builtIn.models entries
  let routes ← layoutPath "routes" builtIn.routes entries
  let validations ← layoutPath "validations" builtIn.validations entries
  return { models, validations, controllers, routes, middlewares }

/-- The path at a place of a list, or a default if the list is shorter. -/
def layoutItem (index : Nat) (default : Path) (items : List Setting) :
    Except SettingsError Path :=
  match items[index]? with
  | none => .ok default
  | some value => (value.text "path string" ["layout", Text.ofNat index]).map Path.mk

/-- The layout of a list. -/
def layoutOfList (items : List Setting) : Except SettingsError Layout := do
  let builtIn : Layout := {}
  let models ← layoutItem 0 builtIn.models items
  let validations ← layoutItem 1 builtIn.validations items
  let controllers ← layoutItem 2 builtIn.controllers items
  let routes ← layoutItem 3 builtIn.routes items
  let middlewares ← layoutItem 4 builtIn.middlewares items
  return { models, validations, controllers, routes, middlewares }

/-- A layout: a table with the names of its directories, or a list of them in the order of the
fields of `Layout`. -/
def layout : Setting → Except SettingsError Layout
  | table _ entries => layoutOfTable entries
  | list _ items => layoutOfList items
  | other => .error (.wrongType other "struct Layout" ["layout"])

/-- The settings under the keys of some entries; a missing key has its built-in value. -/
def settings (entries : List (Text × Setting)) : Except SettingsError Settings := do
  let builtIn : Settings := {}
  let extension ← textAt "a string" [] "extension" builtIn.extension entries
  let layout ← match entries.lookup ("layout" : Text) with
    | none => pure builtIn.layout
    | some value => value.layout
  let root ← textAt "path string" [] "root" builtIn.root.text entries
  return { root := ⟨root⟩, extension, layout }

/-- The entries of a table. -/
def entries : Setting → List (Text × Setting)
  | table _ entries => entries
  | _ => []

/-- The key of a table in a file that stands for the value under this key. -/
def valueKey : Text := "___figment_value_value"

/-- The key of a table in a file under which a number says where the value comes from that the
table stands for. -/
def originKey : Text := "___figment_value_id"

/-- What a table of a file stands for, given its number of an origin if it has one: for the value
under `valueKey` if there is one, else for itself. The number zero is that of the file. -/
def unwrapped (origin : Origin) (number? : Option Int) (entries : List (Text × Setting)) :
    Setting :=
  match entries.lookup valueKey, number? with
  | some value, none => value
  | some value, some number => value.withOrigin (if number = 0 then origin else .unnamed)
  | none, _ => table origin (entries.filter fun e => e.1 != originKey)

mutual

/-- A value of a TOML document as a setting, unless it holds an origin that is no integer. A date
counts as a table without entries. -/
def ofToml? (origin : Origin) : Toml → Option Setting
  | .text value => some (scalar origin (.text value))
  | .integer value => some (scalar origin (.signed value))
  | .real value => some (scalar origin (.real value))
  | .bool value => some (scalar origin (.bool value))
  | .date => some (table origin [])
  | .array items => (ofTomlItems? origin items).map (list origin)
  | .table entries =>
    match entries.lookup originKey with
    | none => (ofTomlEntries? origin entries).map (unwrapped origin none)
    | some (.integer number) => (ofTomlEntries? origin entries).map (unwrapped origin (some number))
    | some _ => none

/-- The items of an array as settings. -/
def ofTomlItems? (origin : Origin) : List Toml → Option (List Setting)
  | [] => some []
  | item :: items => do return (← ofToml? origin item) :: (← ofTomlItems? origin items)

/-- The entries of a table as settings. -/
def ofTomlEntries? (origin : Origin) : List (Text × Toml) → Option (List (Text × Setting))
  | [] => some []
  | (key, value) :: entries => do
    return (key, ← ofToml? origin value) :: (← ofTomlEntries? origin entries)

end

/-- The built-in layer of a project. -/
def builtIn (root : Path) : Setting :=
  let single (value : Text) : Setting := .scalar .builtIn (.text value)
  let settings : Settings := { root }
  .table .builtIn
    [("root", single settings.root.text), ("extension", single settings.extension),
      ("layout", .table .builtIn
        [("models", single settings.layout.models.text),
          ("validations", single settings.layout.validations.text),
          ("controllers", single settings.layout.controllers.text),
          ("routes", single settings.layout.routes.text),
          ("middlewares", single settings.layout.middlewares.text)])]

end Setting

/-! ## Files -/

/-- The name of the file of settings in the root of a project. -/
def Settings.fileName : Path := ⟨"crudgen.toml"⟩

/-- The way from one absolute path to another: up from `base` as far as needed, then down. -/
def Path.relativeTo (base p : Path) : List Component :=
  match strip base.components p.components with
  | (above, below) => above.map (fun _ => Component.up) ++ below
where
  /-- What is left of two paths after the components that they begin with in common. -/
  strip : List Component → List Component → List Component × List Component
    | x :: xs, y :: ys => if x = y then strip xs ys else (x :: xs, y :: ys)
    | xs, ys => (xs, ys)

/-- The text of a component. -/
def Component.text : Component → Text
  | root => "/"
  | here => "."
  | up => ".."
  | name text => text

/-- A path as messages show it: relative to the current directory where that is shorter. -/
def Path.shownFrom (cwd p : Path) : Path :=
  let relative := cwd.relativeTo p
  if relative.length < p.components.length then
    ⟨List.intercalate ['/'] (relative.map Component.text)⟩
  else p

namespace Settings

variable {m : Type → Type} [Monad m]

/-- The first file of a list of paths, with its content. -/
def firstFile? (disk : Disk m) : List Path → m (Option (Path × Text))
  | [] => pure none
  | p :: ps => do
    match ← disk.read? p with
    | some content => pure (some (p, content))
    | none => firstFile? disk ps

/-- Where a file of settings is looked for: an absolute path only there, a relative one below the
current directory and below each directory above it. -/
def candidates (cwd p : Path) : List Path :=
  if p.isAbsolute then [p] else cwd.ancestors.map (·.join p)

/-- The layer of a file of settings. -/
def fileLayer (disk : Disk m) (cwd p : Path) : m (Except SettingsError Setting) := do
  match ← firstFile? disk (candidates cwd p) with
  | none => pure (.ok (.table .builtIn []))
  | some (found, content) =>
    let origin := Origin.file (Path.shownFrom cwd found)
    match (Toml.read? content).bind (Setting.ofTomlEntries? origin) with
    | none => pure (.error .malformed)
    | some entries => pure (.ok (.table origin entries))

/-- The settings of three layers, with the given root. -/
def ofLayers (root : Path) (file environment : Setting) : Except SettingsError Settings := do
  let merged := ((Setting.builtIn root).overlay file).overlay environment
  return { (← Setting.settings merged.entries) with root }

/-- Load the settings of a project: from `file?`, or from the file of settings in its root, and
from the variables of the environment. -/
def load (disk : Disk m) (cwd root : Path) (file? : Option Path)
    (environment : List (Text × Text)) : m (Except SettingsError Settings) := do
  let layer ← fileLayer disk cwd (file?.getD (root.join fileName))
  return layer.bind fun layer => ofLayers root layer (Environment.layer environment)

end Settings

end CrudScaffold
