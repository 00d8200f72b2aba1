import CrudScaffold.Failure
import CrudScaffold.Family
import CrudScaffold.FieldSpec.Block

set_option autoImplicit false

/-! # Resources

A resource is what files are generated for: a model with fields, of a family, in a project with
settings. `Resource.plan` says which files those are, without a look at the disk. -/

namespace CrudScaffold

/-- A resource that files can be generated for. -/
structure Resource where
  model : Text
  /-- The tokens of the fields that were asked for. -/
  tokens : List Text
  family : Family
  settings : Settings
  isModelName_model : isModelName model = true
  isBlank_token : ∀ token ∈ tokens, token.isBlank = false

/-- A file to be generated. -/
structure PlannedFile where
  /-- Its path, relative to the root of the project. -/
  path : Path
  content : Text
  artifact : Artifact
  /-- What it is, in words for the user. -/
  description : Text
  deriving DecidableEq, Repr

namespace Resource

/-- A resource from what the user asks for. Blank tokens are passed over. -/
def ofInput (model : Text) (tokens : List Text) (family : Family) (settings : Settings) :
    Except Failure Resource :=
  if h : isModelName model then
    .ok {
      model, family, settings
      tokens := tokens.filter fun token => !token.isBlank
      isModelName_model := h
      isBlank_token := by simp }
  else .error (.invalidModelName model)

/-- The fields of a resource, with those that its family has in any case or without them. -/
def fields (r : Resource) (withFixed : Bool) : List FieldSpec :=
  ((if withFixed then r.family.fixedTokens else []) ++ r.tokens).map FieldSpec.parse

/-- The text for a slot of a template. -/
def slotText (r : Resource) : Slot → Text
  | .modelName => r.model
  | .modelPascal => ModelName.pascal r.model
  | .modelPlural => ModelName.plural r.model
  | .schemaFields => FieldSpec.schemaBlock (r.fields true) r.family.usesPlaceholder
  | .createRules =>
    FieldSpec.ruleBlock .create (r.fields r.family.validatesFixed) r.family.usesPlaceholder
  | .updateRules =>
    FieldSpec.ruleBlock .update (r.fields r.family.validatesFixed) r.family.usesPlaceholder

/-- The context that the templates of a resource are filled from. -/
def context (r : Resource) : ContextValue :=
  .object ([.modelName, .modelPascal, .modelPlural, .schemaFields, .createRules,
    .updateRules].map fun slot : Slot => (slot.name, .string (r.slotText slot)))

/-- The directory of an artifact. -/
def directory (r : Resource) : Artifact → Path
  | .model => r.settings.layout.models
  | .validation => r.settings.layout.validations
  | .controller => r.settings.layout.controllers
  | .route => r.settings.layout.routes
  | .uploadMiddleware | .authMiddleware => r.settings.layout.middlewares

/-- The name of the file of an artifact. -/
def fileName (r : Resource) (artifact : Artifact) : Text :=
  match artifact.sharedStem? with
  | some stem => r.settings.sharedFileName stem
  | none => r.settings.modelFileName r.model artifact.label

/-- The path of an artifact, relative to the root of the project. -/
def path (r : Resource) (artifact : Artifact) : Path :=
  (r.directory artifact).join ⟨r.fileName artifact⟩

/-- What an artifact is, in words for the user. -/
def description (r : Resource) : Artifact → Text
  | .model => ("Model '" : Text) ++ r.model ++ ['\'']
  | .validation => ("Validation '" : Text) ++ r.model ++ ['\'']
  | .controller => ("Controller '" : Text) ++ r.model ++ ['\'']
  | .route => ("Route '" : Text) ++ r.model ++ ['\'']
  | .uploadMiddleware => "Middleware 'multer'"
  | .authMiddleware => "Middleware 'auth'"

/-- The file of an artifact. -/
def planFile (r : Resource) (artifact : Artifact) : Except Failure PlannedFile :=
  match r.family.render artifact r.context with
  | .error error => .error (.render error)
  | .ok content =>
    .ok { path := r.path artifact, content, artifact, description := r.description artifact }

/-- The files of a resource, in the order of the artifacts of its family. -/
def plan (r : Resource) : Except Failure (List PlannedFile) := r.family.artifacts.mapM r.planFile

end Resource

end CrudScaffold
