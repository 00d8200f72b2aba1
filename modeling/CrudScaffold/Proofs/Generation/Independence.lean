import CrudScaffold.Proofs.Generation.History
import CrudScaffold.Proofs.Generation.Room

set_option autoImplicit false

/-! # Independent generations

Two generations that succeed one after the other, on a tree without links and without two dots in
their settings, do not touch each other. They can as well be done in the other order, which leaves the
same tree behind (`Resource.generate_comm`). -/

namespace CrudScaffold

open FileTree Generation

namespace Generation

variable {t t₁ t₂ t₁₂ t₂₁ : FileTree} {cwd place : Place} {first second : List Target}

/-! ## Targets one after the other -/

section Exclusive

variable (h₁ : Settled cwd first t t₁) (hroom : HasRoom t₁ cwd second)
include h₁ hroom

/-- Where the first targets have left a file there is none of the second ones, and none of those below
it. -/
theorem not_second_of_text {text : Text} (h : textAt? cwd first place = some text) :
    textAt? cwd second place = none ∧ ¬IsAbove cwd (second.map Target.path) place := by
  have hfile := h₁.text place text h
  refine ⟨Classical.byContradiction fun htext => ?_, fun habove => ?_⟩
  · simp [hroom.node?_eq_none htext] at hfile
  · exact hroom.node?_ne_file habove text hfile

theorem not_second_of_isAbove (h : IsAbove cwd (first.map Target.path) place) :
    textAt? cwd second place = none := by
  have hdir := h₁.directory place h
  refine Classical.byContradiction fun htext => ?_
  simp [hroom.node?_eq_none htext] at hdir

/-- The second targets leave room for the first ones, which left room for them. -/
theorem hasRoom_swap (hroom₁ : HasRoom t cwd first) (h₂ : Settled cwd second t t₂) :
    HasRoom t₂ cwd first := by
  refine hroom₁.transfer (fun place htext => ?_) fun place habove content => ?_
  · obtain ⟨text, htext'⟩ := Option.ne_none_iff_exists'.1 htext
    obtain ⟨hnone, hbelow⟩ := not_second_of_text h₁ hroom htext'
    rw [h₂.other place hnone hbelow]
    exact hroom₁.node?_eq_none htext
  · by_cases habove' : IsAbove cwd (second.map Target.path) place
    · simp [h₂.directory place habove']
    · rw [h₂.other place (not_second_of_isAbove h₁ hroom habove) habove']
      exact hroom₁.node?_ne_file habove content

/-- Either order leaves the same behind at every place: a file of one of them, a directory above one
of them, or what was there before. -/
theorem node?_swap (h₁₂ : Settled cwd second t₁ t₁₂) (h₂ : Settled cwd second t t₂)
    (h₂₁ : Settled cwd first t₂ t₂₁) (place : Place) : t₁₂.node? place = t₂₁.node? place := by
  -- A place at which one of them leaves a file is out of reach for the other; above, both can meet.
  cases hfirst : textAt? cwd first place with
  | some text =>
    obtain ⟨hnone, hbelow⟩ := not_second_of_text h₁ hroom hfirst
    rw [h₁₂.other place hnone hbelow, h₁.text place text hfirst, h₂₁.text place text hfirst]
  | none =>
    cases hsecond : textAt? cwd second place with
    | some text =>
      have hbelow : ¬IsAbove cwd (first.map Target.path) place := fun habove => by
        simp [not_second_of_isAbove h₁ hroom habove] at hsecond
      rw [h₁₂.text place text hsecond, h₂₁.other place hfirst hbelow, h₂.text place text hsecond]
    | none =>
      by_cases habove₁ : IsAbove cwd (first.map Target.path) place
      · rw [h₂₁.directory place habove₁]
        by_cases habove₂ : IsAbove cwd (second.map Target.path) place
        · exact h₁₂.directory place habove₂
        · rw [h₁₂.other place hsecond habove₂, h₁.directory place habove₁]
      · rw [h₂₁.other place hfirst habove₁]
        by_cases habove₂ : IsAbove cwd (second.map Target.path) place
        · rw [h₁₂.directory place habove₂, h₂.directory place habove₂]
        · rw [h₁₂.other place hsecond habove₂, h₁.other place hfirst habove₁,
            h₂.other place hsecond habove₂]

end Exclusive

end Generation

namespace Resource

/-- Whether a generation on a tree succeeds. -/
def succeeds (r : Resource) (t : FileTree) (cwd : Place) : Bool :=
  ((r.generate (FileTree.disk cwd)).run t).1.2.isOk

/-- The tree that a generation leaves behind. -/
def after (r : Resource) (t : FileTree) (cwd : Place) : FileTree :=
  ((r.generate (FileTree.disk cwd)).run t).2

/-- **Independent generations commute.** If two generations succeed one after the other, on a tree
without links and without two dots in their settings, they succeed in the other order, too, and leave
the same at every place. The current directory is one of the tree, so none of them makes it. -/
theorem generate_comm {r₁ r₂ : Resource} {t : FileTree} {cwd : Place}
    (hcwd : t.node? cwd = some .directory) (hfree : t.LinkFree) (hdown₁ : r₁.settings.NeverUp)
    (hdown₂ : r₂.settings.NeverUp) (h₁ : r₁.succeeds t cwd = true)
    (h₁₂ : r₂.succeeds (r₁.after t cwd) cwd = true) :
    r₂.succeeds t cwd = true ∧ r₁.succeeds (r₂.after t cwd) cwd = true ∧
      ∀ place, (r₂.after (r₁.after t cwd) cwd).node? place =
        (r₁.after (r₂.after t cwd) cwd).node? place := by
  obtain ⟨files₁, hplan₁⟩ := r₁.exists_plan_eq_ok
  obtain ⟨files₂, hplan₂⟩ := r₂.exists_plan_eq_ok
  have hgrows₁ := r₁.grows_generate t cwd
  have hgrows₂ := r₂.grows_generate t cwd
  have hcwd₁ := hgrows₁.directory hcwd
  have hcwd₂ := hgrows₂.directory hcwd
  have hfree₁ := hfree.of_grows hgrows₁
  have hfree₂ := hfree.of_grows hgrows₂
  have hroom₁ := (isOk_generate_iff_hasRoom hcwd hfree hdown₁ hplan₁).1 h₁
  have hsettled₁ := (generate_of_hasRoom hcwd hfree hplan₁ hroom₁).2
  have hroom₁₂ := (isOk_generate_iff_hasRoom hcwd₁ hfree₁ hdown₂ hplan₂).1 h₁₂
  have hsettled₁₂ := (generate_of_hasRoom hcwd₁ hfree₁ hplan₂ hroom₁₂).2
  -- What has room after the first generation has room before it, and the first one after that.
  have hroom₂ := hroom₁₂.of_grows hgrows₁
  obtain ⟨hok₂, hsettled₂⟩ := generate_of_hasRoom hcwd hfree hplan₂ hroom₂
  have hroom₂₁ := hasRoom_swap hsettled₁ hroom₁₂ hroom₁ hsettled₂
  obtain ⟨hok₂₁, hsettled₂₁⟩ := generate_of_hasRoom hcwd₂ hfree₂ hplan₁ hroom₂₁
  exact ⟨hok₂, hok₂₁, node?_swap hsettled₁ hroom₁₂ hsettled₁₂ hsettled₂ hsettled₂₁⟩

/-- A shop, of which nothing is there yet. -/
def shop : Resource :=
  { byDefault "photo" .upload isModelName_photo with settings := { root := ⟨"shop"⟩ } }

/-- Another project, inside of the first one. -/
def backOffice : Resource :=
  { byDefault "user" .model isModelName_user with settings := { root := ⟨"shop//./office"⟩ } }

/-- Whichever comes first makes the directory of the shop, and the files of both are there at the
end. -/
theorem generate_comm_shop_backOffice :
    (FileTree.empty.node? [] = some .directory ∧ FileTree.empty.LinkFree ∧ shop.settings.NeverUp ∧
      backOffice.settings.NeverUp ∧ shop.succeeds FileTree.empty [] = true ∧
      backOffice.succeeds (shop.after FileTree.empty []) [] = true) ∧
    (∀ p ∈ [(⟨"shop/models/photo.model.js"⟩ : Path), ⟨"shop/office/models/user.model.js"⟩],
      (backOffice.after (shop.after FileTree.empty []) []).exists? [] p = true) ∧
    backOffice.succeeds FileTree.empty [] = true ∧
      shop.succeeds (backOffice.after FileTree.empty []) [] = true ∧
      ∀ place, (backOffice.after (shop.after FileTree.empty []) []).node? place =
        (shop.after (backOffice.after FileTree.empty []) []).node? place := by
  have hdown₁ : shop.settings.NeverUp := by decide +kernel
  have hdown₂ : backOffice.settings.NeverUp := by decide +kernel
  have h₁ : shop.succeeds FileTree.empty [] = true := by decide +kernel
  have h₁₂ : backOffice.succeeds (shop.after FileTree.empty []) [] = true := by decide +kernel
  exact ⟨⟨rfl, linkFree_empty, hdown₁, hdown₂, h₁, h₁₂⟩, by decide +kernel,
    generate_comm rfl linkFree_empty hdown₁ hdown₂ h₁ h₁₂⟩

end Resource

end CrudScaffold
