import CrudScaffold.Proofs.FileTree.Ladder
import CrudScaffold.Proofs.Generation.Writing
import CrudScaffold.Proofs.Target

set_option autoImplicit false

/-! # Room for a generation

On a tree without links, what becomes of targets without two dots can be read off their places. They
can all be written if the tree has room for them (`Generation.HasRoom`), and only then; what is there
afterwards depends on the places, too (`Generation.Settled`). -/

namespace CrudScaffold

open FileTree Generation

namespace Generation

variable {t t' t₁ : FileTree} {cwd place : Place} {p : Path} {paths : List Path}
  {targets : List Target} {target : Target}

/-! ## Directories above some paths -/

/-- Whether a place is above that of one of some paths. -/
def IsAbove (cwd : Place) (paths : List Path) (place : Place) : Prop :=
  ∃ p ∈ paths, place <:+ (placeOf cwd p).tail

theorem isAbove_cons : IsAbove cwd (p :: paths) =
    fun place => place <:+ (placeOf cwd p).tail ∨ IsAbove cwd paths place := by
  funext place
  simp [IsAbove]

/-- With no file in the way, a path on a ladder that leads anywhere leads to a directory. -/
theorem directory_of_exists? (hcwd : t.node? cwd = some .directory) (hfree : t.LinkFree)
    (hladder : Ladder cwd (p :: paths) place) (hclear : t.Clear place)
    (h : t.exists? cwd p = true) : t.node? place = some .directory := by
  cases hladder with
  | here => exact hcwd
  | foot => exact node?_start hcwd p
  | rung hp hplace =>
    rcases descend_of_clear hfree hclear with ⟨hnode, -⟩ | ⟨-, -, hd⟩ | ⟨-, hd⟩
    · exact hnode
    · simp [exists?, locate_eq_descend hfree hcwd hp, hplace, hd] at h
    · simp [exists?, locate_eq_descend hfree hcwd hp, hplace, hd] at h

/-- Making the directories of one path, and then those of the others. -/
theorem run_makeParents_cons (hcwd : t.node? cwd = some .directory) (hfree : t.LinkFree)
    (hp : Descends p) (hclear : t.Clear (placeOf cwd p).tail) :
    ∃ missing t₁, Made (· <:+ (placeOf cwd p).tail) t t₁ ∧ ∀ paths,
      (makeParents (FileTree.disk cwd) (p :: paths)).run t =
        ((missing ++ ((makeParents (FileTree.disk cwd) paths).run t₁).1.1,
          ((makeParents (FileTree.disk cwd) paths).run t₁).1.2),
          ((makeParents (FileTree.disk cwd) paths).run t₁).2) := by
  obtain ⟨name, dir, parent, hplace, hparent, hladder⟩ := hp.exists_ladder cwd
  rw [hplace] at hclear ⊢
  cases hthere : t.exists? cwd parent with
  | true =>
    refine ⟨[], t, made_refl (directory_of_exists? hcwd hfree hladder hclear hthere), fun paths => ?_⟩
    rw [run_makeParents_of_exists?]
    · rfl
    · intro other hother
      rwa [← Option.some.inj (hparent.symm.trans hother)]
  | false =>
    obtain ⟨t₁, hrun, hmade⟩ := run_makeDirectories_of_ladder hcwd hfree hladder hclear
    exact ⟨_, t₁, hmade, run_makeParents_of_none hparent hthere hrun⟩

/-- With no file in the way, the directories of all paths can be made. -/
theorem run_makeParents_of_clear (paths : List Path) : ∀ t : FileTree,
    t.node? cwd = some .directory → t.LinkFree → (∀ p ∈ paths, Descends p) →
    (∀ p ∈ paths, t.Clear (placeOf cwd p).tail) →
    ∃ made t', (makeParents (FileTree.disk cwd) paths).run t = ((made, none), t') ∧
      Made (IsAbove cwd paths) t t' := by
  induction paths with
  | nil => exact fun t _ _ _ _ => ⟨[], t, rfl, by simp [IsAbove], fun _ _ => rfl⟩
  | cons p paths ih =>
    intro t hcwd hfree hdescends hclear
    rw [List.forall_mem_cons] at hdescends hclear
    obtain ⟨missing, t₁, hmade, hrun⟩ := run_makeParents_cons hcwd hfree hdescends.1 hclear.1
    obtain ⟨made, t', hrest, hmade'⟩ := ih t₁ (hmade.node?_of_directory hcwd) (hmade.linkFree hfree)
      hdescends.2 fun q hq => hmade.clear (hclear.2 q hq)
    exact ⟨missing ++ made, t', by rw [hrun, hrest], isAbove_cons ▸ hmade.trans hmade'⟩

/-! ## Room -/

/-- The text that some targets leave at a place, if each is written at the place that it names. -/
def textAt? (cwd : Place) : List Target → Place → Option Text
  | [], _ => none
  | target :: targets, place => (textAt? cwd targets place).or
      (if placeOf cwd target.path = place then some target.content else none)

theorem textAt?_eq_none_iff :
    textAt? cwd targets place = none ↔ ∀ target ∈ targets, placeOf cwd target.path ≠ place := by
  induction targets with
  | nil => simp [textAt?]
  | cons target targets ih => simp [textAt?, Option.or_eq_none_iff, ih, and_comm]

/-- Whether a tree without links has room for some targets. -/
structure HasRoom (t : FileTree) (cwd : Place) (targets : List Target) : Prop where
  descends : ∀ target ∈ targets, Descends target.path
  /-- Nothing stands at a target. -/
  free : ∀ target ∈ targets, t.node? (placeOf cwd target.path) = none
  /-- No file stands above a target. -/
  clear : ∀ target ∈ targets, t.Clear (placeOf cwd target.path).tail
  /-- No target is above another one. -/
  apart : ∀ target ∈ targets, ¬IsAbove cwd (targets.map Target.path) (placeOf cwd target.path)

theorem HasRoom.node?_eq_none (h : HasRoom t cwd targets)
    (htext : textAt? cwd targets place ≠ none) : t.node? place = none := by
  rw [Ne, textAt?_eq_none_iff] at htext
  simp only [ne_eq, Classical.not_forall, Classical.not_not] at htext
  obtain ⟨target, htarget, rfl⟩ := htext
  exact h.free target htarget

theorem HasRoom.node?_ne_file (h : HasRoom t cwd targets)
    (habove : IsAbove cwd (targets.map Target.path) place) (content : Text) :
    t.node? place ≠ some (.file content) := by
  obtain ⟨p, hp, hplace⟩ := habove
  obtain ⟨target, htarget, rfl⟩ := List.mem_map.1 hp
  exact h.clear target htarget place hplace content

/-- Only what stands at the targets and above them matters for the room that there is. -/
theorem HasRoom.transfer (h : HasRoom t cwd targets)
    (hfree : ∀ place, textAt? cwd targets place ≠ none → t'.node? place = none)
    (hclear : ∀ place, IsAbove cwd (targets.map Target.path) place →
      ∀ content, t'.node? place ≠ some (.file content)) : HasRoom t' cwd targets where
  descends := h.descends
  free target htarget := hfree _ fun hnone => textAt?_eq_none_iff.1 hnone target htarget rfl
  clear _ htarget place hplace := hclear place ⟨_, List.mem_map_of_mem htarget, hplace⟩
  apart := h.apart

/-- Room that there is in a grown tree was there before. -/
theorem HasRoom.of_grows (h : HasRoom t' cwd targets) (hgrows : t.Grows t') :
    HasRoom t cwd targets := by
  refine h.transfer (fun place htext => ?_) fun place habove content hfile => ?_
  · cases hnode : t.node? place with
    | none => rfl
    | some node =>
      obtain ⟨node', hnode', -⟩ := hgrows.node? place node hnode
      simp [h.node?_eq_none htext] at hnode'
  · obtain ⟨content', hfile'⟩ := hgrows.file hfile
    exact h.node?_ne_file habove content' hfile'

/-- What some targets without two dots leave behind. -/
structure Settled (cwd : Place) (targets : List Target) (t t' : FileTree) : Prop where
  text : ∀ place text, textAt? cwd targets place = some text → t'.node? place = some (.file text)
  directory : ∀ place, IsAbove cwd (targets.map Target.path) place →
    t'.node? place = some .directory
  other : ∀ place, textAt? cwd targets place = none → ¬IsAbove cwd (targets.map Target.path) place →
    t'.node? place = t.node? place

/-- Where every path is written to at the place that it names, all of them are written. -/
theorem leftAt?_eq_textAt? (targets : List Target)
    (h : ∀ target ∈ targets, t.destination? cwd target.path = some (placeOf cwd target.path)) :
    reached t cwd (contents targets) = contents targets ∧
      ∀ place, leftAt? t cwd (contents targets) place = textAt? cwd targets place := by
  induction targets with
  | nil => exact ⟨rfl, fun _ => rfl⟩
  | cons target targets ih =>
    rw [List.forall_mem_cons] at h
    obtain ⟨hreached, hleft⟩ := ih h.2
    refine ⟨(reached_of_some h.1 _).trans (congrArg _ hreached), fun place => ?_⟩
    refine (leftAt?_of_some h.1 _ place).trans ?_
    rw [← contents, hleft, textAt?]
    simp [eq_comm]

/-- Nothing is found at the targets, and their directories can be made. -/
theorem HasRoom.prepared? (h : HasRoom t cwd targets) (hcwd : t.node? cwd = some .directory)
    (hfree : t.LinkFree) :
    ∃ t₁, prepared? t cwd targets = some t₁ ∧ Made (IsAbove cwd (targets.map Target.path)) t t₁ := by
  have hfirst : firstOccupied? t cwd targets = none := by
    rw [firstOccupied?, List.find?_eq_none]
    intro target htarget
    simp [isOccupied_of_descends hfree hcwd (h.descends target htarget), h.free target htarget]
  obtain ⟨made, t₁, hrun, hmade⟩ := run_makeParents_of_clear (targets.map Target.path) t hcwd hfree
    (by simpa using h.descends) (by simpa using h.clear)
  exact ⟨t₁, by simp only [Generation.prepared?, hfirst, hrun], hmade⟩

/-- Then every target can be written at its place. -/
theorem HasRoom.destination?_eq (h : HasRoom t cwd targets) (hcwd : t.node? cwd = some .directory)
    (hfree : t.LinkFree) (hmade : Made (IsAbove cwd (targets.map Target.path)) t t₁)
    (htarget : target ∈ targets) :
    t₁.destination? cwd target.path = some (placeOf cwd target.path) := by
  obtain ⟨name, dir, parent, hplace, -⟩ := (h.descends target htarget).exists_ladder cwd
  have hdir : t₁.node? dir = some .directory := by
    refine hmade.directory dir ⟨_, List.mem_map_of_mem htarget, ?_⟩
    rw [hplace]
    exact List.suffix_refl dir
  have hname : t₁.node? (placeOf cwd target.path) = none := by
    rw [hmade.other _ (h.apart target htarget), h.free target htarget]
  rw [hplace] at hname ⊢
  exact destination?_of_descends (hmade.linkFree hfree) (hmade.node?_of_directory hcwd)
    (h.descends target htarget) hplace hdir hname

theorem HasRoom.settled (h : HasRoom t cwd targets) (hcwd : t.node? cwd = some .directory)
    (hfree : t.LinkFree) (hmade : Made (IsAbove cwd (targets.map Target.path)) t t₁)
    {written : List Path} {failure? : Option Failure}
    (hwrote : Wrote t₁ cwd (contents targets) written failure? t') :
    failure? = none ∧ Settled cwd targets t t' := by
  obtain ⟨hreached, hleft⟩ := leftAt?_eq_textAt? targets fun target htarget =>
    h.destination?_eq hcwd hfree hmade htarget
  have hnode : ∀ place, t'.node? place = ((textAt? cwd targets place).map Node.file).or
      (t₁.node? place) := fun place => hleft place ▸ hwrote.node?_eq place
  refine ⟨hwrote.failure?_eq_none.2 hreached, fun place text htext => ?_, fun place habove => ?_,
    fun place htext habove => ?_⟩
  · rw [hnode, htext]
    rfl
  · have htext : textAt? cwd targets place = none := textAt?_eq_none_iff.2 fun target htarget e =>
      h.apart target htarget (e ▸ habove)
    rw [hnode, htext]
    exact hmade.directory place habove
  · rw [hnode, htext]
    exact hmade.other place habove

/-- A target that is written has its place as its destination, in a directory. -/
theorem descends_of_wrote (hcwd : t₁.node? cwd = some .directory) (hfree : t₁.LinkFree)
    {written : List Path} (hwrote : Wrote t₁ cwd (contents targets) written none t')
    (htarget : target ∈ targets) (hdown : KeepsDown target.path) :
    Descends target.path ∧ ∃ name dir, placeOf cwd target.path = name :: dir ∧
      t₁.node? dir = some .directory ∧ t₁.node? (name :: dir) ≠ some .directory := by
  obtain ⟨place, hplace⟩ := exists_destination?_of_reached (hwrote.failure?_eq_none.1 rfl)
    (List.mem_map_of_mem htarget)
  obtain ⟨hp, rfl⟩ := descends_of_destination? hfree hcwd hdown hplace
  obtain ⟨name, dir, hname, hdir, hnode⟩ := node?_of_destination? hplace
  refine ⟨hp, name, dir, hname, hdir, ?_⟩
  rcases hnode with hnone | ⟨content, hfile⟩
  · simp [hnone]
  · simp [hfile]

/-- Targets without two dots that have all been written had room. -/
theorem hasRoom_of_wrote (hcwd : t.node? cwd = some .directory) (hfree : t.LinkFree)
    (hdown : ∀ target ∈ targets, KeepsDown target.path) (hprepared : prepared? t cwd targets = some t₁)
    {written : List Path} (hwrote : Wrote t₁ cwd (contents targets) written none t') :
    HasRoom t cwd targets := by
  obtain ⟨hfirst, hgrowsBy⟩ := prepared?_eq_some hprepared
  have hgrows := hgrowsBy.grows
  have hdest := fun target (htarget : target ∈ targets) =>
    descends_of_wrote (hgrows.directory hcwd) (hfree.of_grows hgrows) hwrote htarget
      (hdown target htarget)
  have habove : ∀ place, IsAbove cwd (targets.map Target.path) place →
      t₁.node? place = some .directory := by
    rintro place ⟨p, hp, hplace⟩
    obtain ⟨target, htarget, rfl⟩ := List.mem_map.1 hp
    obtain ⟨-, name, dir, hname, hdir, -⟩ := hdest target htarget
    rw [hname] at hplace
    exact node?_of_suffix hdir hplace
  refine ⟨fun target htarget => (hdest target htarget).1, fun target htarget => ?_,
    fun target htarget place hplace content hfile => ?_, fun target htarget h => ?_⟩
  · rw [firstOccupied?, List.find?_eq_none] at hfirst
    have hocc := hfirst target htarget
    rw [isOccupied_of_descends hfree hcwd (hdest target htarget).1] at hocc
    simpa using hocc
  · obtain ⟨content', hfile'⟩ := hgrows.file hfile
    have hdir := habove place ⟨_, List.mem_map_of_mem htarget, hplace⟩
    simp [hfile'] at hdir
  · obtain ⟨-, name, dir, hname, -, hne⟩ := hdest target htarget
    exact hne (hname ▸ habove _ h)

end Generation

namespace Resource

variable {r : Resource} {t : FileTree} {cwd : Place} {files : List PlannedFile}

theorem keepsDown_of_neverUp (hdown : r.settings.NeverUp) (hplan : r.plan = .ok files) :
    ∀ target ∈ r.targets files, KeepsDown target.path := by
  intro target htarget
  obtain ⟨file, hfile, rfl⟩ := mem_targets.1 htarget
  have hmoves := up_notMem_moves_targetPath hdown file.artifact
  rw [targetPath, ← (plan_eq_ok hplan).2 file hfile] at hmoves
  exact keepsDown_iff.2 hmoves

/-- Where there is room, a generation succeeds. -/
theorem generate_of_hasRoom (hcwd : t.node? cwd = some .directory) (hfree : t.LinkFree)
    (hplan : r.plan = .ok files) (h : HasRoom t cwd (r.targets files)) :
    ((r.generate (FileTree.disk cwd)).run t).1.2.isOk = true ∧
      Settled cwd (r.targets files) t ((r.generate (FileTree.disk cwd)).run t).2 := by
  obtain ⟨t₁, hprepared, hmade⟩ := h.prepared? hcwd hfree
  rcases run_generate_cases r t cwd with
    ⟨failure, -, -, hnot⟩ | ⟨files', t₂, written, failure?, hplan', hprepared', hwrote, hresult⟩
  · simp [hnot files hplan] at hprepared
  · obtain rfl := Except.ok.inj (hplan.symm.trans hplan')
    obtain rfl := Option.some.inj (hprepared.symm.trans hprepared')
    obtain ⟨rfl, hsettled⟩ := h.settled hcwd hfree hmade hwrote
    refine ⟨?_, hsettled⟩
    rcases hresult with ⟨failure, hfailure, -⟩ | ⟨report, -, -, hok⟩
    · simp at hfailure
    · rw [hok]
      rfl

/-- A generation that succeeds had room. -/
theorem hasRoom_of_generate (hcwd : t.node? cwd = some .directory) (hfree : t.LinkFree)
    (hdown : r.settings.NeverUp) (hplan : r.plan = .ok files)
    (h : ((r.generate (FileTree.disk cwd)).run t).1.2.isOk = true) :
    HasRoom t cwd (r.targets files) := by
  rcases run_generate_cases r t cwd with
    ⟨failure, hfailure, -⟩ | ⟨files', t₁, written, failure?, hplan', hprepared, hwrote, hresult⟩
  · rw [hfailure] at h
    cases h
  · obtain rfl := Except.ok.inj (hplan.symm.trans hplan')
    rcases hresult with ⟨failure, -, hfailure⟩ | ⟨report, rfl, -, -⟩
    · rw [hfailure] at h
      cases h
    · exact hasRoom_of_wrote hcwd hfree (keepsDown_of_neverUp hdown hplan) hprepared hwrote

/-- **When a generation succeeds without links.** It does so exactly if there is room for it. -/
theorem isOk_generate_iff_hasRoom (hcwd : t.node? cwd = some .directory) (hfree : t.LinkFree)
    (hdown : r.settings.NeverUp) (hplan : r.plan = .ok files) :
    ((r.generate (FileTree.disk cwd)).run t).1.2.isOk = true ↔ HasRoom t cwd (r.targets files) :=
  ⟨hasRoom_of_generate hcwd hfree hdown hplan, fun h => (generate_of_hasRoom hcwd hfree hplan h).1⟩

end Resource

end CrudScaffold
