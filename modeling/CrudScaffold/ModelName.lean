import CrudScaffold.Text.Blank
import CrudScaffold.Text.Case

set_option autoImplicit false

/-! # Model names

What can be the name of a model, and the other names that generated files make from it. -/

namespace CrudScaffold

/-- Whether a text can be the name of a model: it is not empty and has neither blanks nor
slashes. -/
def isModelName (name : Text) : Bool :=
  name != [] && name.all fun c => !isBlank c && c != '/' && c != '\\'

namespace ModelName

/-- The name of the class of a model. -/
def pascal (model : Text) : Text := model.capitalize

/-- The name of a list of all that there is of a model. -/
def plural (model : Text) : Text := model ++ ['s']

/-- The path under which the routes of a model are mounted. -/
def mountPath (model : Text) : Text := '/' :: model

end ModelName

end CrudScaffold
