import CrudScaffold.Path

set_option autoImplicit false

/-! # Settings

Where the generated files of a project go and what they are called. -/

namespace CrudScaffold

/-- The directories of the generated files, relative to the root of the project. -/
structure Layout where
  models : Path := ⟨"models"⟩
  validations : Path := ⟨"validations"⟩
  controllers : Path := ⟨"controllers"⟩
  routes : Path := ⟨"routes"⟩
  middlewares : Path := ⟨"middlewares"⟩
  deriving DecidableEq, Repr

/-- The settings of a project. -/
structure Settings where
  /-- The root of the project. -/
  root : Path := ⟨"."⟩
  /-- The extension of generated files, without the point before it. -/
  extension : Text := "js"
  layout : Layout := {}
  deriving DecidableEq, Repr

namespace Settings

/-- The name of a file that belongs to one model. -/
def modelFileName (settings : Settings) (model label : Text) : Text :=
  model ++ '.' :: label ++ '.' :: settings.extension

/-- The name of a file that all models share. -/
def sharedFileName (settings : Settings) (stem : Text) : Text := stem ++ '.' :: settings.extension

end Settings

end CrudScaffold
