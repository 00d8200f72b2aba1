import CrudScaffold.Template

set_option autoImplicit false

/-! # Endpoints

An endpoint of a resource is a handler that its controller declares and exports, and that its
router imports and mounts. Both files are put together from the same list of endpoints. -/

namespace CrudScaffold.Boilerplate

open Slot

/-- A request handler and the route that it is mounted on. -/
structure Endpoint where
  /-- The name of the handler. -/
  name : Template
  /-- The parameters of the handler and the arrow after them. -/
  arrow : Text
  /-- The body of the handler, with its braces, as whole lines. -/
  body : Template
  /-- The method of the router that mounts the handler. -/
  verb : Text
  /-- The path of the route. -/
  path : Text
  /-- What the route does before the handler. -/
  before : Text := []

namespace Endpoint

/-- The declaration of a handler, and an empty line. -/
def declaration (e : Endpoint) : Template :=
  List.flatten [["const "], e.name, [" = async", .text e.arrow], e.body, ["\n"]]

/-- The line that mounts a handler on its route. -/
def mount (e : Endpoint) : List Segment :=
  List.flatten
    [["router.", .text e.verb, "('", .text e.path, "', ", .text e.before], e.name, [")"]]

/-- The names of the handlers between braces, as they are exported and imported. -/
def nameList (endpoints : List Endpoint) : List Segment :=
  List.flatten [["\x7b "], List.intercalate [", "] (endpoints.map name), [" \x7d"]]

end Endpoint

/-- A controller: what it declares first, the handlers of its endpoints, and their export. -/
def controller (start : Template) (endpoints : List Endpoint) : Template :=
  List.flatten
    [start, endpoints.flatMap Endpoint.declaration,
      Template.ofLines ["export " :: Endpoint.nameList endpoints]]

/-- A router: the import of the handlers, other imports, and a route for every handler. -/
def router (imports : Template) (endpoints : List Endpoint) : Template :=
  List.flatten
    [Template.ofLines
      [["import \x7b Router \x7d from \"express\";"],
        List.flatten
          [["import "], Endpoint.nameList endpoints,
            [" from \"../controllers/", modelName, ".controller.js\""]]],
      imports, Template.ofLines [[], ["const router = Router()"], []],
      Template.ofLines (endpoints.map Endpoint.mount),
      Template.ofLines [[], ["export default router"]]]

end CrudScaffold.Boilerplate
