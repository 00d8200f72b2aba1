import CrudScaffold.Proofs.FileTree.Ascent
import Mathlib.Data.List.Forall2

set_option autoImplicit false

/-! # Directories raised one after another

A list of places at which directories are made in turn says all that happens to a tree
(`FileTree.Raised.node?_eq`), and each of the places is new, comes once, and comes after the place
above it. Making directories up an absolute path without two dots is such a list, one place for each
path that led to nothing (`FileTree.raised_of_makeDirectories`). -/

namespace CrudScaffold

namespace FileTree

variable {t t' t'' : FileTree} {cwd dir place : Place} {name : Text} {p parent : Path}
  {above parents : List Path} {places places' : List Place} {result : Option DiskError}

/-! ## Directories made in turn -/

/-- Directories made in turn, each under a vacant name of a directory. -/
inductive Raised : FileTree → List Place → FileTree → Prop
  | done (t : FileTree) : Raised t [] t
  | next {t t' : FileTree} {name : Text} {dir : Place} {places : List Place}
    (hdir : t.node? dir = some .directory) (hnone : t.node? (name :: dir) = none)
    (hrest : Raised (t.put name dir .directory) places t') : Raised t ((name :: dir) :: places) t'

theorem node?_put_directory (hdir : t.node? dir = some .directory)
    (hnone : t.node? (name :: dir) = none) (place : Place) :
    (t.put name dir .directory).node? place =
      if place = name :: dir then some .directory else t.node? place :=
  node?_put t name dir place .directory hdir (by simp [hnone])

theorem raised_put (hdir : t.node? dir = some .directory) (hnone : t.node? (name :: dir) = none) :
    Raised t [name :: dir] (t.put name dir .directory) := .next hdir hnone (.done _)

theorem Raised.append (h : Raised t places t') (h' : Raised t' places' t'') :
    Raised t (places ++ places') t'' := by
  induction h with
  | done => exact h'
  | next hdir hnone _ ih => exact .next hdir hnone (ih h')

theorem Raised.grows (h : Raised t places t') : t.Grows t' := by
  induction h with
  | done t => exact .refl t
  | next hdir hnone _ ih =>
    exact (grows_put hdir (by simp) fun old ho => by simp [hnone] at ho).trans ih

theorem Raised.node?_eq (h : Raised t places t') (place : Place) :
    t'.node? place = if place ∈ places then some .directory else t.node? place := by
  induction h with
  | done => simp
  | @next _ _ name dir places hdir hnone _ ih =>
    rw [ih, node?_put_directory hdir hnone]
    by_cases hnew : place = name :: dir
    · simp [hnew]
    · simp [hnew]

theorem Raised.node?_of_mem (h : Raised t places t') (hplace : place ∈ places) :
    t.node? place = none := by
  induction h with
  | done => simp at hplace
  | @next _ _ name dir places hdir hnone _ ih =>
    rcases List.mem_cons.1 hplace with rfl | hrest
    · exact hnone
    · have hlater := ih hrest
      rw [node?_put_directory hdir hnone] at hlater
      split at hlater
      · simp at hlater
      · exact hlater

theorem Raised.nodup (h : Raised t places t') : places.Nodup := by
  induction h with
  | done => exact List.nodup_nil
  | next hdir hnone hrest ih =>
    refine List.nodup_cons.2 ⟨fun hagain => ?_, ih⟩
    -- A place that came again would be vacant after its directory was made.
    have hvacant := hrest.node?_of_mem hagain
    simp [node?_put_directory hdir hnone] at hvacant

theorem Raised.directory_or_mem (h : Raised t places t') : ∀ before name dir after,
    places = before ++ (name :: dir) :: after → t.node? dir = some .directory ∨ dir ∈ before := by
  induction h with
  | done => simp
  | next hdir hnone hrest ih =>
    intro before name' dir' after hsplit
    rcases List.cons_eq_append_iff.1 hsplit with ⟨rfl, hhead⟩ | ⟨before', rfl, htail⟩
    · obtain ⟨hplace, -⟩ := List.cons.inj hhead
      obtain ⟨-, rfl⟩ := List.cons.inj hplace
      exact Or.inl hdir
    · rcases ih before' name' dir' after htail with hthere | hmem
      · rw [node?_put_directory hdir hnone] at hthere
        split at hthere
        · next e => exact Or.inr (List.mem_cons.2 (Or.inl e))
        · exact Or.inl hthere
      · exact Or.inr (List.mem_cons_of_mem _ hmem)

/-! ## Directories made up a path -/

/-- Whether a path leads to a directory at a place. -/
def LeadsTo (t : FileTree) (cwd : Place) (p : Path) (place : Place) : Prop :=
  t.locate cwd .follow p = .node place .directory

theorem LeadsTo.grows (h : t.LeadsTo cwd p place) (hgrows : t.Grows t') : t'.LeadsTo cwd p place :=
  hgrows.locate_directory h

theorem LeadsTo.exists? (h : t.LeadsTo cwd p place) : t.exists? cwd p = true := by
  rw [FileTree.exists?, h]

theorem exists?_of_isDirectory (h : t.isDirectory cwd p = true) : t.exists? cwd p = true := by
  rw [isDirectory] at h
  split at h
  · next hl => rw [exists?, hl]
  · simp at h

theorem exists?_slash (t : FileTree) (cwd : Place) : t.exists? cwd ⟨['/']⟩ = true := by
  have hl : t.locate cwd .follow ⟨['/']⟩ = t.walk .follow 40 [] [] := rfl
  rw [exists?, hl, walk_of_landed (stretch_nil t.node?_root)]

theorem run_orExisting_eq_none {error : DiskError}
    (h : ((FileTree.disk cwd).orExisting p (some error)).run t = (none, t')) :
    t.isDirectory cwd p = true := by
  rw [Disk.orExisting, run_bind, run_isDirectory] at h
  cases hd : t.isDirectory cwd p with
  | true => rfl
  | false =>
    rw [hd] at h
    cases h

/-- How a directory that was not there comes to be made: at once, or once those above it are. -/
theorem run_makeDirectories_eq_none (hne : p ≠ Path.empty) (hmissing : t.exists? cwd p = false)
    (h : ((FileTree.disk cwd).makeDirectories (p :: parents)).run t = (none, t')) :
    t.makeDirectory cwd p = .ok t' ∨
      ∃ t₁, t.makeDirectory cwd p = .error .notFound ∧
        ((FileTree.disk cwd).makeDirectories parents).run t = (none, t₁) ∧
        (t₁.makeDirectory cwd p = .ok t' ∨
          (∃ error, t₁.makeDirectory cwd p = .error error) ∧ t₁.isDirectory cwd p = true) := by
  have hnot : t.isDirectory cwd p = true → False := fun hd => by
    simp [exists?_of_isDirectory hd] at hmissing
  rw [Disk.makeDirectories, if_neg hne, run_bind] at h
  cases hmake : t.makeDirectory cwd p with
  | ok t₁ =>
    rw [run_makeDirectory_of_ok hmake] at h
    exact Or.inl (congrArg Except.ok (Prod.mk.inj h).2)
  | error error =>
    rw [run_makeDirectory_of_error hmake] at h
    by_cases hreason : error = .notFound
    · subst hreason
      rcases hparents : ((FileTree.disk cwd).makeDirectories parents).run t with ⟨result, t₁⟩
      simp only [run_bind, hparents] at h
      cases result with
      | some error => cases h
      | none =>
        refine Or.inr ⟨t₁, rfl, rfl, ?_⟩
        cases hagain : t₁.makeDirectory cwd p with
        | ok t₂ =>
          rw [run_bind, run_makeDirectory_of_ok hagain] at h
          exact Or.inl (congrArg Except.ok (Prod.mk.inj h).2)
        | error error =>
          rw [run_bind, run_makeDirectory_of_error hagain] at h
          exact Or.inr ⟨⟨error, rfl⟩, run_orExisting_eq_none h⟩
    · have hexisting : ((FileTree.disk cwd).orExisting p (some error)).run t = (none, t') := by
        simpa [hreason] using h
      exact absurd (run_orExisting_eq_none hexisting) hnot

theorem GoesOn.locate_make_of_leadsTo (h : GoesOn name parent p) (hparent : t.LeadsTo cwd parent dir) :
    t.locate cwd .make p = t.look dir name := by
  rcases h.locate_make t cwd with ⟨dir', hdir, hmake⟩ | ⟨hnot, -⟩
  · rw [hmake, (Landing.node.inj (hdir.symm.trans hparent)).1]
  · exact absurd hparent (hnot dir)

/-- If something is missing for a directory to be made, it is the one that it goes into. -/
theorem GoesOn.exists?_parent (h : GoesOn name parent p)
    (hmake : t.makeDirectory cwd p = .error .notFound) : t.exists? cwd parent = false := by
  rcases h.locate_make t cwd with ⟨dir, -, hlook⟩ | ⟨-, error, hfailed, hreason⟩
  · rw [makeDirectory, hlook] at hmake
    split at hmake
    · simp at hmake
    · simp at hmake
    · next hl =>
      rw [Except.error.inj hmake] at hl
      exact absurd hl look_ne_notFound
  · rw [makeDirectory, hfailed] at hmake
    exact hreason (Except.error.inj hmake)

/-- What comes of making a directory of the last name of a path. -/
structure Raises (t : FileTree) (cwd : Place) (p : Path) (place : Place) (t' : FileTree) : Prop where
  raised : Raised t [place] t'
  leadsTo : t'.LeadsTo cwd p place
  empty : ∀ name, t'.node? (name :: place) = none

theorem GoesOn.raises (h : GoesOn name parent p) (hparent : t.LeadsTo cwd parent dir)
    (hmake : t.makeDirectory cwd p = .ok t') : Raises t cwd p (name :: dir) t' := by
  obtain ⟨step, place, hvacant, rfl⟩ := makeDirectory_eq_ok hmake
  obtain ⟨hdir, hnone⟩ := node?_of_locate_vacant hvacant
  rw [h.locate_make_of_leadsTo hparent] at hvacant
  have hshort : ¬255 < name.byteSize := fun hlong => by simp [look, hlong] at hvacant
  obtain ⟨rfl, rfl, -⟩ := look_eq_vacant hvacant
  have hraised := raised_put hdir hnone
  refine ⟨hraised, locate_follow_of_make ?_, fun child => ?_⟩
  · rw [h.locate_make_of_leadsTo (hparent.grows hraised.grows), look, if_neg hshort,
      node?_put_directory hdir hnone, if_pos rfl]
  · rw [node?_put_directory hdir hnone, if_neg (by simp)]
    exact node?_cons_of_none hnone

/-- **Directories up a path.** When the directories up a path could be made, those are new that the
paths which led to nothing lead to now, the highest first. -/
theorem raised_of_makeDirectories (h : Ascent p above) : ∀ {t'}, t.exists? cwd p = false →
    ((FileTree.disk cwd).makeDirectories (p :: above)).run t = (none, t') →
    ∃ places place, Raised t places t' ∧
      List.Forall₂ (t'.LeadsTo cwd) (t.missing cwd (p :: above)).reverse places ∧
      t'.LeadsTo cwd p place ∧ ∀ name, t'.node? (name :: place) = none := by
  induction h with
  | root =>
    intro t' hmissing
    simp [exists?_slash] at hmissing
  | @step name p parent above hp hparent ih =>
    intro t' hmissing hrun
    have hskip : t.missing cwd (p :: parent :: above) = p :: t.missing cwd (parent :: above) := by
      simp [missing, hmissing]
    rw [hskip, List.reverse_cons]
    rcases run_makeDirectories_eq_none (ne_empty_of_not_isRefused hp.not_isRefused) hmissing hrun with
      hmake | ⟨t₁, hmake, hparents, hagain⟩
    · -- The parent was there.
      rcases hp.locate_make t cwd with ⟨dir, hdir, -⟩ | ⟨-, error, hfailed, -⟩
      · have hraises := hp.raises hdir hmake
        have hnone : t.missing cwd (parent :: above) = [] := by
          simp [missing, LeadsTo.exists? hdir]
        rw [hnone]
        exact ⟨_, _, hraises.raised, .cons hraises.leadsTo .nil, hraises.leadsTo, hraises.empty⟩
      · simp [makeDirectory, hfailed] at hmake
    · -- The parent was missing, and it is new and empty now.
      obtain ⟨places, dir, hraised, hleads, hdir, hempty⟩ := ih (hp.exists?_parent hmake) hparents
      have hlook := hp.locate_make_of_leadsTo hdir
      rcases hagain with hmade | ⟨⟨error, herror⟩, hthere⟩
      · have hraises := hp.raises hdir hmade
        refine ⟨places ++ [name :: dir], name :: dir, hraised.append hraises.raised, ?_,
          hraises.leadsTo, hraises.empty⟩
        exact List.rel_append (hleads.imp fun _ _ hl => hl.grows hraises.raised.grows)
          (.cons hraises.leadsTo .nil)
      · rcases look_of_none (hempty name) with hlong | hvacant
        · rw [isDirectory_of_locate_make hp.steps_eq hp.not_isRefused (hlook.trans hlong)] at hthere
          simp at hthere
        · simp [makeDirectory, hlook, hvacant] at herror

/-- What a disk does not accept it makes no directory of. -/
theorem not_isRefused_of_makeDirectories (hne : p.text ≠ []) (hmissing : t.exists? cwd p = false)
    (h : ((FileTree.disk cwd).makeDirectories (p :: parents)).run t = (none, t')) : ¬IsRefused p := by
  intro hr
  have hempty : p ≠ Path.empty := fun e => hne (e ▸ rfl)
  have hfailed : ∃ error, error ≠ .notFound ∧ t.makeDirectory cwd p = .error error := by
    rcases hr with hnul | hnil | hlong
    · exact ⟨.nulInPath, by simp, by rw [makeDirectory, locate, if_pos hnul]⟩
    · exact absurd hnil hne
    · by_cases hnul : '\x00' ∈ p.text
      · exact ⟨.nulInPath, by simp, by rw [makeDirectory, locate, if_pos hnul]⟩
      · exact ⟨.nameTooLong, by simp, by
          rw [makeDirectory, locate, if_neg hnul, if_neg hne, if_pos hlong]⟩
  obtain ⟨error, hreason, hfailed⟩ := hfailed
  rcases run_makeDirectories_eq_none hempty hmissing h with hmake | ⟨-, hmake, -⟩
  · simp [hfailed] at hmake
  · rw [hfailed] at hmake
    exact hreason (Except.error.inj hmake)

end FileTree

end CrudScaffold
