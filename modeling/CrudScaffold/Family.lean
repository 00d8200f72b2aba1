import CrudScaffold.Boilerplate.Upload
import CrudScaffold.Boilerplate.User
import CrudScaffold.ModelName
import CrudScaffold.Template.Context

set_option autoImplicit false

/-! # Families

A family decides which files are generated for a resource, which fields it has besides those that
are asked for, and from which templates its files are made. -/

namespace CrudScaffold

/-- What a generated file is. -/
inductive Artifact where
  | model
  | validation
  | controller
  | route
  /-- Receives uploaded files. All models share it. -/
  | uploadMiddleware
  /-- Checks the tokens of users. All models share it. -/
  | authMiddleware
  deriving DecidableEq, Repr

namespace Artifact

/-- The word for an artifact in file names and messages. -/
def label : Artifact → Text
  | model => "model"
  | validation => "validation"
  | controller => "controller"
  | route => "route"
  | uploadMiddleware | authMiddleware => "middleware"

/-- The name of a file that all models share, without its extension. -/
def sharedStem? : Artifact → Option Text
  | uploadMiddleware => some "multer"
  | authMiddleware => some "auth"
  | _ => none

end Artifact

/-- What kind of resource is generated. -/
inductive Family where
  /-- A plain resource. -/
  | model
  /-- A resource that describes an uploaded file. -/
  | upload
  /-- A user who registers and logs in. -/
  | user
  deriving DecidableEq, Repr

/-- A resource is a plain one unless something else is asked for. -/
instance : Inhabited Family := ⟨.model⟩

namespace Family

/-- All families. -/
def all : List Family := [model, upload, user]

/-- The name of a family. -/
def name : Family → Text
  | model => "model"
  | upload => "upload"
  | user => "user"

/-- The family of a name. -/
def ofName? (name : Text) : Option Family := all.find? fun family => family.name == name

/-- The files of a family, in the order in which they are written. -/
def artifacts : Family → List Artifact
  | model => [.model, .validation, .controller, .route]
  | upload => [.model, .validation, .controller, .route, .uploadMiddleware]
  | user => [.model, .validation, .controller, .route, .authMiddleware]

/-- The tokens of the fields that every resource of a family has, before the fields asked for. -/
def fixedTokens : Family → List Text
  | model => []
  | upload => ["name:string:true", "alt:string:true"]
  | user => ["email:string:true", "password:string:true"]

/-- Whether a resource without fields shows a placeholder. -/
def usesPlaceholder : Family → Bool
  | model => true
  | upload | user => false

/-- Whether the fixed fields are among the validation rules of the fields. The rules for users
validate an address in a way of its own. -/
def validatesFixed : Family → Bool
  | upload => true
  | model | user => false

/-- What is left to do by hand after the files of a model are written. -/
def nextSteps (family : Family) (model : Text) : List Text :=
  (("Add app.use('" : Text) ++ ModelName.mountPath model ++ ("', " : Text) ++ model ++
    ("Routes) in server.js" : Text)) ::
  match family with
  | .model => []
  | .upload => ["Install multer: npm install multer"]
  | .user => ["Install jsonwebtoken and bcrypt, and add SECRET_KEY to .env"]

/-! ## Templates -/

/-- The text that an artifact of a family is made from. -/
def boilerplate : Family → Artifact → Template
  | user, .model => Boilerplate.userSchema
  | _, .model => Boilerplate.schema
  | model, .validation => Boilerplate.validation
  | upload, .validation => Boilerplate.uploadValidation
  | user, .validation => Boilerplate.userValidation
  | model, .controller =>
    Boilerplate.controller (Boilerplate.controllerImports ++ Template.ofLines [[]])
      Boilerplate.plainEndpoints
  | upload, .controller =>
    Boilerplate.controller (Boilerplate.controllerImports ++ Boilerplate.uploadHelpers)
      Boilerplate.uploadEndpoints
  | user, .controller =>
    Boilerplate.controller (Boilerplate.controllerImports ++ Boilerplate.userHelpers)
      Boilerplate.userEndpoints
  | model, .route => Boilerplate.router [] Boilerplate.plainEndpoints
  | upload, .route => Boilerplate.router Boilerplate.uploadImport Boilerplate.uploadEndpoints
  | user, .route => Boilerplate.router [] Boilerplate.userEndpoints
  | _, .uploadMiddleware => Boilerplate.uploadMiddleware
  | _, .authMiddleware => Boilerplate.authMiddleware

/-- The name of the template of an artifact. -/
def templateName (family : Family) (artifact : Artifact) : Text :=
  family.name ++ '.' :: artifact.sharedStem?.getD artifact.label

/-- Make an artifact of a family from a context. Only the artifacts of the family have a
template. -/
def render (family : Family) (artifact : Artifact) (context : ContextValue) :
    Except RenderError Text :=
  let name := family.templateName artifact
  if artifact ∈ family.artifacts then (family.boilerplate artifact).render name context
  else .error (.notFound name)

end Family

end CrudScaffold
