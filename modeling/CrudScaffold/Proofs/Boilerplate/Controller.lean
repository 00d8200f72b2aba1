import CrudScaffold.Proofs.Boilerplate
import CrudScaffold.Proofs.Template.Line

set_option autoImplicit false

/-! # Controllers line by line

A controller is its imports and helpers, the declarations of its handlers, and their export, all of them whole
lines. So the lines of a controller are looked for in these parts (`Family.filter_lines_controller`), and an
endpoint that families share is looked at once. -/

namespace CrudScaffold

open Boilerplate

namespace Template

theorem endsLine_append {a b : Template} (ha : a.endsLine = true) (hb : b.endsLine = true) :
    endsLine (a ++ b) = true := by
  have hspelled : spelled (a ++ b) = spelled a ++ spelled b := List.flatMap_append
  rw [endsLine, hspelled, List.getLast?_append]
  cases hlast : (spelled b).getLast? with
  | none => exact ha
  | some last => simpa [endsLine, hlast] using hb

theorem endsLine_flatten {ts : List Template} (h : ∀ t ∈ ts, endsLine t = true) :
    endsLine ts.flatten = true := by
  induction ts with
  | nil => rfl
  | cons t ts ih =>
    rw [List.forall_mem_cons] at h
    exact endsLine_append h.1 (ih h.2)

theorem endsLine_newline (t : Template) : endsLine (t ++ [.text ['\n']]) = true := by
  have hspelled : spelled (t ++ [.text ['\n']]) = spelled t ++ [.text ['\n']] := List.flatMap_append
  rw [endsLine, hspelled, List.getLast?_append]
  rfl

theorem endsLine_ofLines (lines : List (List Segment)) : endsLine (ofLines lines) = true := by
  refine endsLine_flatten fun line hline => ?_
  obtain ⟨inner, -, rfl⟩ := List.mem_map.1 hline
  exact endsLine_newline inner

end Template

theorem Boilerplate.Endpoint.endsLine_declaration (e : Endpoint) : e.declaration.endsLine = true := by
  simp only [declaration, List.flatten_cons, List.flatten_nil, List.append_nil, ← List.append_assoc]
  exact Template.endsLine_newline _

namespace Family

/-- The handlers that a family has. -/
def handlers : Family → List Endpoint
  | model => plainEndpoints
  | upload => uploadEndpoints
  | user => userEndpoints

theorem handlers_subset (family : Family) : family.handlers ⊆ allEndpoints := by
  cases family with
  | model => exact plainEndpoints_subset
  | upload => exact uploadEndpoints_subset
  | user => exact userEndpoints_subset

/-- What the controller of a family has before its handlers. -/
def controllerStart : Family → Template
  | model => controllerImports ++ Template.ofLines [[]]
  | upload => controllerImports ++ uploadHelpers
  | user => controllerImports ++ userHelpers

/-- The line that exports the handlers of a family. -/
def exportLine (family : Family) : Template := "export " :: Endpoint.nameList family.handlers

theorem boilerplate_controller (family : Family) :
    family.boilerplate .controller =
      (family.controllerStart ::
        (family.handlers.map Endpoint.declaration ++ [Template.ofLines [family.exportLine]])).flatten := by
  have hparts : family.boilerplate .controller = controller family.controllerStart family.handlers := by
    cases family <;> simp only [boilerplate, controllerStart, handlers]
  rw [hparts, controller, exportLine]
  simp only [List.flatten_cons, List.flatten_nil, List.flatten_append, List.append_nil, List.flatMap_def]

/-- The lines of a controller that may tell something are those of its parts. -/
theorem filter_lines_controller (family : Family) {p : Template → Bool} (hp : p [] = false) :
    (family.boilerplate .controller).lines.filter p =
      family.controllerStart.lines.filter p ++
        ((family.handlers.flatMap fun e => e.declaration.lines.filter p) ++
          (Template.ofLines [family.exportLine]).lines.filter p) := by
  have hstart : family.controllerStart.endsLine = true := by
    cases family <;> exact Template.endsLine_append (Template.endsLine_ofLines _) (Template.endsLine_ofLines _)
  have hends : ∀ t ∈ family.controllerStart ::
      (family.handlers.map Endpoint.declaration ++ [Template.ofLines [family.exportLine]]),
        t.endsLine = true := by
    rw [List.forall_mem_cons]
    refine ⟨hstart, fun t ht => ?_⟩
    rcases List.mem_append.1 ht with ht | ht
    · obtain ⟨e, -, rfl⟩ := List.mem_map.1 ht
      exact e.endsLine_declaration
    · rw [List.mem_singleton.1 ht]
      exact Template.endsLine_ofLines _
  rw [boilerplate_controller, Template.filter_lines_flatten hp hends, List.flatMap_cons, List.flatMap_append,
    List.flatMap_map, List.flatMap_singleton]

/-- If the endpoints have nothing to tell, the lines that do are at the start and at the end. -/
theorem filter_lines_controller_of_endpoints (family : Family) {p : Template → Bool} (hp : p [] = false)
    (hendpoints : ∀ e ∈ allEndpoints, e.declaration.lines.filter p = []) :
    (family.boilerplate .controller).lines.filter p =
      family.controllerStart.lines.filter p ++ (Template.ofLines [family.exportLine]).lines.filter p := by
  have hnone : (family.handlers.flatMap fun e => e.declaration.lines.filter p) = [] := by
    rw [List.flatMap_eq_nil_iff]
    exact fun e he => hendpoints e (family.handlers_subset he)
  rw [family.filter_lines_controller hp, hnone, List.nil_append]

/-- A controller has no slots but those of its parts. -/
theorem uses_controller (family : Family) {slots : List Slot} (hstart : family.controllerStart.uses slots = true)
    (hendpoints : ∀ e ∈ allEndpoints, e.declaration.uses slots = true)
    (hexport : (Template.ofLines [family.exportLine]).uses slots = true) :
    (family.boilerplate .controller).uses slots = true := by
  rw [boilerplate_controller, Template.uses_flatten, List.all_cons, List.all_append, List.all_map, hstart,
    List.all_cons, hexport]
  simpa using fun e he => hendpoints e (family.handlers_subset he)

end Family

end CrudScaffold
