import CrudScaffold.Family
import CrudScaffold.Proofs.Template

set_option autoImplicit false

/-! # Boilerplate

The boilerplate of all families is unambiguous (`isUnambiguous_boilerplate`). The endpoints that
families share are looked at once: controllers and routers are put together from parts that stand
alone. -/

namespace CrudScaffold

open Template

namespace Boilerplate

/-- The endpoints of all families. -/
def allEndpoints : List Endpoint :=
  [create, getAll, getById, update, delete, createUpload, deleteUpload, register, login]

theorem plainEndpoints_subset : plainEndpoints ⊆ allEndpoints := by
  simp [plainEndpoints, allEndpoints]

theorem uploadEndpoints_subset : uploadEndpoints ⊆ allEndpoints := by
  simp [uploadEndpoints, allEndpoints]

theorem userEndpoints_subset : userEndpoints ⊆ allEndpoints := by
  simp [userEndpoints, allEndpoints]

theorem standsAlone_declaration {e : Endpoint} (h : e ∈ allEndpoints) :
    standsAlone e.declaration = true := by
  have hall : allEndpoints.all (fun e => standsAlone e.declaration) = true := by decide +kernel
  exact List.all_eq_true.1 hall e h

theorem isUnambiguous_controller {start : Template} {endpoints : List Endpoint}
    (hstart : standsAlone start = true) (hendpoints : endpoints ⊆ allEndpoints)
    (hexport : standsAlone (ofLines ["export " :: Endpoint.nameList endpoints]) = true) :
    isUnambiguous (controller start endpoints) = true := by
  have hdeclarations : standsAlone (endpoints.flatMap Endpoint.declaration) = true := by
    refine standsAlone_flatten fun piece hpiece => ?_
    obtain ⟨e, he, rfl⟩ := List.mem_map.1 hpiece
    exact standsAlone_declaration (hendpoints he)
  have halone : standsAlone (controller start endpoints) = true := by
    refine standsAlone_flatten ?_
    simpa using ⟨hstart, hdeclarations, hexport⟩
  exact (Bool.and_eq_true_iff.1 halone).1

end Boilerplate

open Boilerplate

/-- **No boilerplate has a mark but those of its slots.** -/
theorem isUnambiguous_boilerplate (family : Family) (artifact : Artifact) :
    (family.boilerplate artifact).isUnambiguous = true := by
  cases artifact with
  | controller =>
    cases family with
    | model =>
      exact isUnambiguous_controller (by decide +kernel) plainEndpoints_subset (by decide +kernel)
    | upload =>
      exact isUnambiguous_controller (by decide +kernel) uploadEndpoints_subset (by decide +kernel)
    | user =>
      exact isUnambiguous_controller (by decide +kernel) userEndpoints_subset (by decide +kernel)
  | model => cases family <;> decide +kernel
  | validation => cases family <;> decide +kernel
  | route => cases family <;> decide +kernel
  | uploadMiddleware =>
    have h : isUnambiguous uploadMiddleware = true := by decide +kernel
    cases family <;> exact h
  | authMiddleware =>
    have h : isUnambiguous authMiddleware = true := by decide +kernel
    cases family <;> exact h

end CrudScaffold
