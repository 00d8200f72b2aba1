import CrudScaffold.Proofs.Boilerplate.Controller
import CrudScaffold.Proofs.Case
import CrudScaffold.Proofs.Target

set_option autoImplicit false

/-! # Imports

What a generated file imports, read off its text line by line. The controller and the router of a
resource import other files by the names that these have in a project with the directories and the
extension that a project begins with, whatever the settings are (`Resource.relativeImports_eq`).

No name of a model adds an import: the texts in the slots of these files have no line breaks, so the
lines of a filled template are its lines, filled (`Template.splitOn_filled_newline`), and those that may import
a file are listed once for every family. -/

namespace CrudScaffold

/-! ## Imports of a text -/

/-- The text that a word has between quotation marks, with or without a semicolon after them. -/
def unquoted? (word : Text) : Option Text :=
  match if word.getLast? = some ';' then word.dropLast else word with
  | [] => none
  | mark :: rest =>
    if (mark = '"' ∨ mark = '\'') ∧ rest.getLast? = some mark then some rest.dropLast else none

/-- What a line imports: if its first word is that of an import, what its last word quotes. -/
def imported? (line : Text) : Option Text :=
  let words := Text.splitOn ' ' line
  if words.head? = some ("import" : Text) then words.getLast?.bind unquoted? else none

/-- What a line imports by a path from the file that it is in, and not by the name of a package. -/
def relativeImport? (line : Text) : Option Text :=
  (imported? line).filter fun path => path.head? == some '.'

/-- The paths that the lines of a text import. -/
def relativeImports (content : Text) : List Text :=
  (Text.splitOn '\n' content).filterMap relativeImport?

/-- What is read off a line that imports a file by a path. -/
def readImport? {α : Type} (read? : Text → Option α) (path line : Text) : Option α :=
  if relativeImport? line = some path then read? line else none

/-- What is read off the lines of a text that import a file by a path. -/
def readImports {α : Type} (read? : Text → Option α) (path content : Text) : List α :=
  (Text.splitOn '\n' content).filterMap (readImport? read? path)

theorem imported?_eq_some (what : Text) {path : Text} (h : ' ' ∉ path) :
    imported? (("import" : Text) ++ ' ' :: (what ++ ' ' :: '"' :: (path ++ ['"']))) = some path := by
  have hword : Text.splitOn ' ' ('"' :: (path ++ ['"'])) = ['"' :: (path ++ ['"'])] :=
    Text.splitOn_of_notMem ' ' _ (by simp [h])
  have hfirst : Text.splitOn ' ' ("import" : Text) = [("import" : Text)] := rfl
  have hlast : (Text.splitOn ' ' ("import" : Text) ++
      (Text.splitOn ' ' what ++ ['"' :: (path ++ ['"'])])).getLast? = some ('"' :: (path ++ ['"'])) := by
    simp
  rw [imported?, Text.splitOn_append, Text.splitOn_append, hword, hlast, hfirst]
  simp [unquoted?, List.getLast?_cons]

theorem imported?_eq_none {c : Char} (hc : c ≠ 'i') (s : Text) : imported? (c :: s) = none := by
  have hfirst : (Text.splitOn ' ' (c :: s)).head? ≠ some ("import" : Text) := by
    rw [Text.splitOn]
    split
    · simp
    · split <;> simp [hc]
  rw [imported?, if_neg hfirst]

/-! ## Lines that import -/

namespace Template

/-- The character that a line begins with, if it is known before the line is filled. -/
def firstLetter? : Template → Option Char
  | .text (c :: _) :: _ => some c
  | _ => none

/-- Whether a line may import a file, for all that is known before it is filled: a line with slots is
told by its first letter. -/
def mayImport (line : Template) : Bool :=
  if line.uses [] then (relativeImport? (line.filled fun _ => [])).isSome
  else line.firstLetter?.all (· == 'i')

section

variable {value : Slot → Text} {slots : List Slot} {t line : Template}

theorem exists_filled_eq_cons {c : Char} (h : line.firstLetter? = some c) :
    ∃ s, line.filled value = c :: s := by
  unfold firstLetter? at h
  split at h
  · next c' s rest =>
    obtain rfl := Option.some.inj h
    exact ⟨s ++ filled value rest, rfl⟩
  · simp at h

theorem relativeImport?_filled_eq_none (h : line.mayImport = false) :
    relativeImport? (line.filled value) = none := by
  by_cases hslots : line.uses [] = true
  · have hsame : line.filled value = line.filled fun _ => [] := filled_congr hslots (by simp)
    rw [mayImport, if_pos hslots] at h
    simpa [hsame] using h
  · rw [mayImport, if_neg hslots] at h
    cases hfirst : line.firstLetter? with
    | none => simp [hfirst] at h
    | some c =>
      obtain ⟨s, hs⟩ := @exists_filled_eq_cons value line c hfirst
      have hc : c ≠ 'i' := by simpa [hfirst] using h
      rw [hs, relativeImport?, imported?_eq_none hc, Option.filter_none]

/-- What a filled template imports stands in the lines that may import a file. -/
theorem relativeImports_filled (ht : t.uses slots = true)
    (hvalue : ∀ slot ∈ slots, '\n' ∉ value slot) :
    relativeImports (t.filled value) =
      (t.lines.filter mayImport).filterMap fun line => relativeImport? (line.filled value) := by
  rw [relativeImports, splitOn_filled_newline ht hvalue]
  exact filterMap_filled fun _ _ => relativeImport?_filled_eq_none

end

end Template

/-! ## Imports of the boilerplate -/

/-- The slots of the names of a model. -/
def Slot.names : List Slot := [.modelName, .modelPascal, .modelPlural]

namespace Artifact

/-- The directory that the files of an artifact are in when a project begins. -/
def home : Artifact → Text
  | model => "models"
  | validation => "validations"
  | controller => "controllers"
  | route => "routes"
  | uploadMiddleware | authMiddleware => "middlewares"

/-- The name of the file of an artifact, up to the point before the extension. -/
def stem (artifact : Artifact) : Template :=
  match artifact.sharedStem? with
  | some stem => [.text stem]
  | none => [Slot.modelName, ".", .text artifact.label]

end Artifact

namespace Family

/-- The artifacts whose files an artifact of a family imports. -/
def importedBy (family : Family) : Artifact → List Artifact
  | .controller => [.model, .validation]
  | .route => .controller :: if family = .upload then [.uploadMiddleware] else []
  | _ => []

/-- What is imported from the file of an artifact. -/
def importedNames (family : Family) : Artifact → Template
  | .model => [Slot.modelPascal]
  | .validation => [Slot.modelName, "Validation"]
  | .controller => Boilerplate.Endpoint.nameList family.handlers
  | _ => ["\x7b upload \x7d"]

theorem importedNames_controller (family : Family) :
    family.importedNames .controller = Boilerplate.Endpoint.nameList family.handlers := rfl

/-- The line that imports an artifact. -/
def importLine (family : Family) (artifact : Artifact) : Template :=
  List.flatten [["import "], family.importedNames artifact,
    [" from \"../", .text artifact.home, "/"], artifact.stem, [".js\""]]

theorem declaration_imports : ∀ e ∈ Boilerplate.allEndpoints,
    e.declaration.uses Slot.names = true ∧ e.declaration.lines.filter Template.mayImport = [] := by
  decide +kernel

theorem controller_imports (family : Family) :
    (family.boilerplate .controller).uses Slot.names = true ∧
      (family.boilerplate .controller).lines.filter Template.mayImport =
        (family.importedBy .controller).map fun imported => (family.importLine imported).spelled := by
  have hstart : family.controllerStart.uses Slot.names = true ∧
      family.controllerStart.lines.filter Template.mayImport =
        (family.importedBy .controller).map fun imported => (family.importLine imported).spelled := by
    cases family <;> decide +kernel
  have hexport : (Template.ofLines [family.exportLine]).uses Slot.names = true ∧
      (Template.ofLines [family.exportLine]).lines.filter Template.mayImport = [] := by
    cases family <;> decide +kernel
  constructor
  · exact family.uses_controller hstart.1 (fun e he => (declaration_imports e he).1) hexport.1
  · rw [family.filter_lines_controller_of_endpoints rfl fun e he => (declaration_imports e he).2,
      hstart.2, hexport.2, List.append_nil]

/-- All that a controller or a router may import, besides packages. -/
theorem boilerplate_imports (family : Family) {artifact : Artifact}
    (h : artifact = .controller ∨ artifact = .route) :
    (family.boilerplate artifact).uses Slot.names = true ∧
      (family.boilerplate artifact).lines.filter Template.mayImport =
        (family.importedBy artifact).map fun imported => (family.importLine imported).spelled := by
  rcases h with rfl | rfl
  · exact family.controller_imports
  · cases family <;> decide +kernel

end Family

namespace Resource

variable {artifact : Artifact}

/-- The name under which the file of an artifact is imported. -/
def importName (r : Resource) (artifact : Artifact) : Text := r.fileKey artifact ++ (".js" : Text)

/-- The path by which the file of an artifact is imported. -/
def importPath (r : Resource) (artifact : Artifact) : Text :=
  ("../" : Text) ++ (artifact.home ++ '/' :: r.importName artifact)

theorem filled_stem (r : Resource) (artifact : Artifact) :
    artifact.stem.filled r.slotText = r.fileKey artifact := by
  have hpoint : Text.ofString "." = ['.'] := rfl
  rw [Artifact.stem, fileKey]
  cases artifact.sharedStem? with
  | some stem => simp
  | none => simp [hpoint, slotText]

theorem space_notMem_importPath (r : Resource) (artifact : Artifact) : ' ' ∉ r.importPath artifact := by
  have hmodel : ' ' ∉ r.model := r.notMem_model_of_isBlank (by decide)
  have hhome : ' ' ∉ artifact.home := by cases artifact <;> decide
  have hlabel : ' ' ∉ artifact.label := by cases artifact <;> decide
  have hstem : ' ' ∉ artifact.sharedStem?.getD [] := by cases artifact <;> decide
  have hkey : ' ' ∉ r.fileKey artifact := by
    unfold fileKey
    split
    · next stem h => simpa [h] using hstem
    · simp [hmodel, hlabel]
  simp [importPath, importName, hkey, hhome]

/-- A line that imports, word by word up to the path. -/
theorem filled_importLine (r : Resource) (artifact : Artifact) :
    (r.family.importLine artifact).filled r.slotText = ("import" : Text) ++ ' ' ::
      ((r.family.importedNames artifact).filled r.slotText ++ (" from" : Text) ++
        ' ' :: '"' :: (r.importPath artifact ++ ['"'])) := by
  have hopen : Text.ofString "import " = ("import" : Text) ++ [' '] := rfl
  have hfrom : Text.ofString " from \"../" = (" from" : Text) ++ ' ' :: '"' :: ("../" : Text) := rfl
  have hslash : Text.ofString "/" = ['/'] := rfl
  have hclose : Text.ofString ".js\"" = (".js" : Text) ++ ['"'] := rfl
  simp only [Family.importLine, List.flatten_cons, List.flatten_nil, Template.filled_append,
    Template.filled_text, Template.filled_nil, filled_stem, hopen, hfrom, hslash, hclose, importPath,
    importName]
  simp

theorem relativeImport?_importLine (r : Resource) (artifact : Artifact) :
    relativeImport? ((r.family.importLine artifact).filled r.slotText) = some (r.importPath artifact) := by
  rw [filled_importLine, relativeImport?, imported?_eq_some _ (r.space_notMem_importPath artifact)]
  rfl

/-- A blank is not in the names of a model. -/
theorem notMem_slotText (r : Resource) {c : Char} (hblank : isBlank c = true) (hc : precedesLetters c = true) :
    ∀ slot ∈ Slot.names, c ∉ r.slotText slot := by
  have hmodel : c ∉ r.model := r.notMem_model_of_isBlank hblank
  have hpascal : c ∉ ModelName.pascal r.model := Text.notMem_capitalize hc hmodel
  have hletter : c ≠ 's' := by
    rintro rfl
    exact absurd hc (by decide)
  simp [Slot.names, slotText, ModelName.plural, hmodel, hpascal, hletter]

theorem newline_notMem_slotText (r : Resource) : ∀ slot ∈ Slot.names, '\n' ∉ r.slotText slot :=
  r.notMem_slotText (by decide) (by decide)

/-- **Imports.** The paths by which a controller or a router imports files do not depend on the
settings of the project. -/
theorem relativeImports_eq (r : Resource) (h : artifact = .controller ∨ artifact = .route) :
    relativeImports (r.planned artifact).content =
      (r.family.importedBy artifact).map r.importPath := by
  obtain ⟨huses, hlines⟩ := r.family.boilerplate_imports h
  rw [planned, Template.relativeImports_filled huses r.newline_notMem_slotText, hlines,
    List.filterMap_map]
  refine List.filterMap_eq_map_iff_forall_eq_some.2 fun imported _ => ?_
  rw [Function.comp_apply, Template.filled_spelled, relativeImport?_importLine]

/-! ## What is imported from a file -/

theorem importPath_ne (r : Resource) {a b : Artifact} (h : a.home.head? ≠ b.home.head?) :
    r.importPath a ≠ r.importPath b := by
  intro heq
  have hhead := congrArg List.head? (List.append_cancel_left heq)
  have hne (c : Artifact) : c.home ≠ [] := by cases c <;> decide
  rw [List.head?_append_of_ne_nil _ (hne a), List.head?_append_of_ne_nil _ (hne b)] at hhead
  exact h hhead

/-- No two files that a controller or a router imports are in one directory. -/
theorem home_head?_ne {family : Family} (h : artifact = .controller ∨ artifact = .route) :
    ∀ a ∈ family.importedBy artifact, ∀ b ∈ family.importedBy artifact, a ≠ b →
      a.home.head? ≠ b.home.head? := by
  rcases h with rfl | rfl
  · cases family <;> decide
  · cases family <;> decide

theorem filter_importedBy {family : Family} (h : artifact = .controller ∨ artifact = .route) :
    ∀ imported ∈ family.importedBy artifact,
      (family.importedBy artifact).filter (fun other => other = imported) = [imported] := by
  rcases h with rfl | rfl
  · cases family <;> decide
  · cases family <;> decide

/-- A controller or a router imports a file in one line. -/
theorem readImports_eq {α : Type} {read? : Text → Option α} {x : α} (r : Resource) {imported : Artifact}
    (h : artifact = .controller ∨ artifact = .route) (himported : imported ∈ r.family.importedBy artifact)
    (hread : read? ((r.family.importLine imported).filled r.slotText) = some x) :
    readImports read? (r.importPath imported) (r.planned artifact).content = [x] := by
  obtain ⟨huses, hlines⟩ := r.family.boilerplate_imports h
  have hline : ∀ line : Template, line.mayImport = false →
      readImport? read? (r.importPath imported) (line.filled r.slotText) = none := by
    intro line hline
    rw [readImport?, Template.relativeImport?_filled_eq_none hline, if_neg (by simp)]
  have hother : ∀ other ∈ r.family.importedBy artifact, decide (other = imported) = false →
      readImport? read? (r.importPath imported) ((r.family.importLine other).filled r.slotText) = none := by
    intro other hmem hne
    have hpath : r.importPath other ≠ r.importPath imported :=
      r.importPath_ne (home_head?_ne h other hmem imported himported (of_decide_eq_false hne))
    rw [readImport?, relativeImport?_importLine, if_neg fun heq => hpath (Option.some.inj heq)]
  have hsame : readImport? read? (r.importPath imported)
      ((r.family.importLine imported).filled r.slotText) = some x := by
    rw [readImport?, if_pos (r.relativeImport?_importLine imported), hread]
  rw [readImports, planned, Template.splitOn_filled_newline huses r.newline_notMem_slotText,
    Template.filterMap_filled fun line _ => hline line, hlines, List.filterMap_map]
  simp only [Function.comp_def, Template.filled_spelled]
  rw [Template.filterMap_eq_filterMap_filter hother, filter_importedBy h imported himported,
    List.filterMap_cons, hsame]
  rfl

end Resource

end CrudScaffold
