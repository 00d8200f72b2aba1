import CrudScaffold.FileTree.Walk
import CrudScaffold.Settings.Load
import CrudScaffold.Template.Context

set_option autoImplicit false

/-! # Failures

Everything that can go wrong between the settings of a project and its generated files. -/

namespace CrudScaffold

/-- Why nothing, or not everything, was generated. -/
inductive Failure where
  /-- Something stands where a file of a model is to be written. -/
  | collision (path : Path) (model label : Text)
  /-- The name cannot be the name of a model. -/
  | invalidModelName (name : Text)
  /-- A directory cannot be made or a file cannot be written. -/
  | disk (path : Path) (error : DiskError)
  /-- A template lacks a value. -/
  | render (error : RenderError)
  /-- The settings cannot be loaded. -/
  | settings (error : SettingsError)

namespace Failure

/-- The error of another part that a failure passes on. -/
def cause? : Failure → Option Text
  | collision .. | invalidModelName _ => none
  | disk _ error => some error.message
  | render error => some error.message
  | settings error => some error.message

/-- The text of a failure. -/
def message : Failure → Text
  | collision path model label =>
    ("The file " : Text) ++ path.text ++ (" already exists (" : Text) ++ label ++
      (" for '" : Text) ++ model ++ ("')" : Text)
  | invalidModelName name =>
    ("Invalid model name: '" : Text) ++ name ++ ("'. A model name is required" : Text)
  | disk path error =>
    ("I/O error on " : Text) ++ path.text ++ (": " : Text) ++ error.message
  | render error => ("Render error: " : Text) ++ error.message
  | settings error => ("Configuration error: " : Text) ++ error.message

/-- Whether a failure is a collision. -/
def isCollision : Failure → Bool
  | collision .. => true
  | _ => false

end Failure

end CrudScaffold
