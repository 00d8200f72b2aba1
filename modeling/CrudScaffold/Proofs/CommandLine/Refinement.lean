import CrudScaffold.Proofs.CommandLine.Switches
import CrudScaffold.Proofs.Generation.Phases
import CrudScaffold.Proofs.Plan
import CrudScaffold.Proofs.Settings.Reading

set_option autoImplicit false

/-! # The program as a use of the library

The functions that load settings, take in a resource, plan its files and write them can be called one
after the other without the program (`scaffold`). The program does the same to a tree, and what it tells
the user is a function of what these come to (`CommandLine.run_generate`): the failure alone says how far
the run had got. So the program refines the library, and how much it logs changes nothing else
(`CommandLine.run_refines_scaffold`). -/

namespace CrudScaffold

/-! ## The library -/

/-- Load the settings of a project, take in a resource of it, plan its files and write them. -/
def scaffold {m : Type → Type} [Monad m] (disk : Disk m) (cwd root : Path) (file? : Option Path)
    (environment : List (Text × Text)) (model : Text) (tokens : List Text) (family : Family) :
    m (List Event × Except Failure (List PlannedFile × Report)) := do
  match ← Settings.load disk cwd root file? environment with
  | .error error => pure ([], .error (.settings error))
  | .ok settings =>
    match Resource.ofInput model tokens family settings with
    | .error failure => pure ([], .error failure)
    | .ok resource => resource.generate disk

/-- Whether something has come to a collision. -/
def isRefused {α : Type} : Except Failure α → Bool
  | .error failure => failure.isCollision
  | .ok _ => false

theorem isRefused_iff {α : Type} {result : Except Failure α} :
    isRefused result = true ↔ ∃ path model label, result = .error (.collision path model label) := by
  obtain failure | answer := result
  · cases failure <;> simp [isRefused, Failure.isCollision]
  · simp [isRefused]

namespace Resource

variable {r : Resource} {t t' : FileTree} {cwd : Place} {events : List Event} {failure : Failure}
  {model : Text} {tokens : List Text} {family : Family} {settings : Settings}

theorem ofInput_eq_error (h : ofInput model tokens family settings = .error failure) :
    failure = .invalidModelName model := by
  rw [ofInput] at h
  split at h
  · cases h
  · exact (Except.error.inj h).symm

/-- The planning never fails, and what stands in the way of the writing is found before anything is
done. -/
theorem failure_of_generate
    (h : (r.generate (FileTree.disk cwd)).run t = ((events, .error failure), t')) :
    ((∃ path model label, failure = .collision path model label) ∧ t' = t) ∨
      ∃ path error, failure = .disk path error := by
  rw [run_generate_of_ok r.plan_eq] at h
  have hcourse := course_write r (r.family.artifacts.map r.planned) t cwd
  generalize (r.write (FileTree.disk cwd) (r.family.artifacts.map r.planned)).run t = outcome at h hcourse
  cases hcourse with
  | refused =>
    cases h
    exact Or.inl ⟨⟨_, _, _, rfl⟩, rfl⟩
  | stopped =>
    cases h
    exact Or.inr ⟨_, _, rfl⟩
  | brokenOff =>
    cases h
    exact Or.inr ⟨_, _, rfl⟩
  | finished => cases h

end Resource

/-- A failure before the writing, or a collision, leaves the tree as it is. -/
theorem tree_of_scaffold {t t' : FileTree} {cwd : Place} {root : Path} {file? : Option Path}
    {environment : List (Text × Text)} {model : Text} {tokens : List Text} {family : Family}
    {events : List Event} {failure : Failure}
    (h : (scaffold (FileTree.disk cwd) cwd.path root file? environment model tokens family).run t =
      ((events, .error failure), t'))
    (hdisk : ∀ path error, failure ≠ .disk path error) : t' = t := by
  rw [scaffold, FileTree.run_bind, Settings.run_load] at h
  dsimp only at h
  split at h
  · cases h
    rfl
  · next settings hload =>
    split at h
    · cases h
      rfl
    · obtain ⟨-, rfl⟩ | ⟨path, error, hfailure⟩ := Resource.failure_of_generate h
      · rfl
      · exact absurd hfailure (hdisk path error)

namespace CommandLine

/-- What the library makes of an invocation. Without a root of the user's choice, the current directory is
the root of the project. -/
def Invocation.scaffold {m : Type → Type} [Monad m] (i : Invocation) (disk : Disk m) (cwd : Path)
    (environment : List (Text × Text)) :
    m (List Event × Except Failure (List PlannedFile × Report)) :=
  CrudScaffold.scaffold disk cwd (i.options.root?.getD cwd) i.options.config? environment i.model i.tokens
    i.family

/-! ## What the user is told -/

/-- What was being done when a failure came, where a message says so. -/
def doing? : Failure → Option Text
  | .settings _ => some "Failed to load configuration"
  | .invalidModelName _ => some "Failed to create scaffold generator"
  | .render _ => some "Failed to generate scaffold files"
  | .collision .. | .disk .. => none

/-- What is told before a failure: nothing if there are no settings, else the heading. -/
def toldBefore (styled : Bool) (i : Invocation) : Failure → Text
  | .settings _ => []
  | _ => heading styled i

/-- What the user is told of what an invocation has come to. -/
def transcript (environment : List (Text × Text)) (terminal : Bool) (i : Invocation) :
    List Event × Except Failure (List PlannedFile × Report) → Transcript
  | (events, result) =>
    let styled := usesStyles environment terminal
    let log := (events.filter (shows (filterOf environment i.options.verbose))).map eventLine
    match result with
    | .error failure =>
      { exitCode := 1, output := toldBefore styled i failure, log
        failure? := some (complaint styled (doing? failure) failure) }
    | .ok (files, report) =>
      { exitCode := 0, log
        output := heading styled i ++ account styled files report ++
          advice styled (i.family.nextSteps i.model) }

/-- **What the program does.** It does to a tree what the library does, and tells what comes of that. -/
theorem run_generate (t : FileTree) (cwd : Place) (environment : List (Text × Text)) (terminal : Bool)
    (i : Invocation) :
    (generate (FileTree.disk cwd) cwd.path environment terminal i).run t =
      let (outcome, t') := (i.scaffold (FileTree.disk cwd) cwd.path environment).run t
      (transcript environment terminal i outcome, t') := by
  unfold generate Invocation.scaffold scaffold
  rw [FileTree.run_bind, FileTree.run_bind, Settings.run_load]
  dsimp only
  cases Settings.outcome cwd.path (i.options.root?.getD cwd.path) environment
    (t.firstFile? cwd (Settings.candidates cwd.path (i.options.config?.getD
      ((i.options.root?.getD cwd.path).join Settings.fileName)))) with
  | error error => rfl
  | ok settings =>
    dsimp only
    cases hinput : Resource.ofInput i.model i.tokens i.family settings with
    | error failure =>
      obtain rfl := Resource.ofInput_eq_error hinput
      rfl
    | ok resource =>
      dsimp only
      rw [FileTree.run_bind]
      rcases hgenerate : (resource.generate (FileTree.disk cwd)).run t with ⟨⟨events, result⟩, t'⟩
      cases result with
      | error failure =>
        obtain ⟨⟨path, model, label, rfl⟩, -⟩ | ⟨path, error, rfl⟩ :=
          Resource.failure_of_generate hgenerate
        · rfl
        · rfl
      | ok made => rfl

/-- The mark of a collision at the beginning of a message. -/
def collisionMark (styled : Bool) : Text := paint styled [.red, .bold] "❌ Collision:"

theorem collisionMark_prefix_complaint (styled : Bool) (doing? : Option Text) (failure : Failure) :
    collisionMark styled <+: complaint styled doing? failure ↔ failure.isCollision = true := by
  unfold complaint collisionMark
  cases hcollision : failure.isCollision with
  | true => simp
  | false =>
    -- The other mark differs within its own length.
    simp only [Bool.false_eq_true, if_false, iff_false]
    rw [← List.isPrefixOf_iff_prefix, Bool.not_eq_true]
    cases styled <;> rfl

theorem exitCode_transcript (environment : List (Text × Text)) (terminal : Bool) (i : Invocation)
    (outcome : List Event × Except Failure (List PlannedFile × Report)) :
    (transcript environment terminal i outcome).exitCode = if outcome.2.isOk then 0 else 1 := by
  obtain ⟨events, failure | made⟩ := outcome <;> rfl

theorem failure?_transcript (environment : List (Text × Text)) (terminal : Bool) (i : Invocation)
    (outcome : List Event × Except Failure (List PlannedFile × Report)) :
    (transcript environment terminal i outcome).failure? =
      match outcome.2 with
      | .error failure => some (complaint (usesStyles environment terminal) (doing? failure) failure)
      | .ok _ => none := by
  obtain ⟨events, failure | made⟩ := outcome <;> rfl

/-- How much is logged changes nothing else of what is told. -/
theorem transcript_same {environment environment' : List (Text × Text)} {i i' : Invocation}
    (hquiet : i.quiet = i'.quiet) (henvironment : SameButLog environment environment') (terminal : Bool)
    (outcome : List Event × Except Failure (List PlannedFile × Report)) :
    { transcript environment terminal i outcome with log := [] } =
      { transcript environment' terminal i' outcome with log := [] } := by
  obtain ⟨options, family, model, tokens⟩ := i
  obtain ⟨options', family', model', tokens'⟩ := i'
  obtain ⟨-, rfl, rfl, rfl⟩ := Invocation.mk.inj hquiet
  obtain ⟨events, failure | made⟩ := outcome
  · simp only [transcript, henvironment.usesStyles_eq]
    cases failure <;> rfl
  · simp only [transcript, henvironment.usesStyles_eq]
    rfl

/-- Nor does it change what the library does. -/
theorem scaffold_same {m : Type → Type} [Monad m] {environment environment' : List (Text × Text)}
    {i i' : Invocation} (hquiet : i.quiet = i'.quiet) (henvironment : SameButLog environment environment')
    (disk : Disk m) (cwd : Path) : i.scaffold disk cwd environment = i'.scaffold disk cwd environment' := by
  obtain ⟨⟨root?, config?, verbose⟩, family, model, tokens⟩ := i
  obtain ⟨⟨root?', config?', verbose'⟩, family', model', tokens'⟩ := i'
  obtain ⟨hoptions, rfl, rfl, rfl⟩ := Invocation.mk.inj hquiet
  obtain ⟨rfl, rfl, -⟩ := Options.mk.inj hoptions
  unfold Invocation.scaffold scaffold Settings.load
  rw [henvironment.layer_eq]

/-! ## Runs -/

theorem run_of_generate {args : List Text} {i : Invocation} (h : parse args = .generate i) {t t' : FileTree}
    {cwd : Place} {environment : List (Text × Text)}
    {outcome : List Event × Except Failure (List PlannedFile × Report)}
    (hscaffold : (i.scaffold (FileTree.disk cwd) cwd.path environment).run t = (outcome, t'))
    (terminal : Bool) :
    (run (FileTree.disk cwd) cwd.path environment args terminal).run t =
      (transcript environment terminal i outcome, t') := by
  rw [run, h]
  dsimp only
  rw [run_generate, hscaffold]

/-- **The program refines the library.** A run for an invocation leaves the tree that the library leaves,
and its code tells whether the library succeeds. It ends with a message exactly if the library fails, and
the message begins with the mark of a collision, in styles where these are used, exactly if the failure is
one. Only a failure of the disk may have changed the tree. What the log is to show changes nothing but the
log. All this is so on a terminal and elsewhere. -/
theorem run_refines_scaffold {args : List Text} {i : Invocation} (h : parse args = .generate i)
    (t : FileTree) (cwd : Place) (environment : List (Text × Text)) (terminal : Bool) :
    ∃ events result t' told,
      (scaffold (FileTree.disk cwd) cwd.path (i.options.root?.getD cwd.path) i.options.config? environment
        i.model i.tokens i.family).run t = ((events, result), t') ∧
      (run (FileTree.disk cwd) cwd.path environment args terminal).run t = (told, t') ∧
      told.exitCode = (if result.isOk then 0 else 1) ∧
      (told.failure? = none ↔ result.isOk = true) ∧
      (∀ message, told.failure? = some message →
        (collisionMark (usesStyles environment terminal) <+: message ↔
          ∃ path model label, result = .error (.collision path model label))) ∧
      (∀ failure, result = .error failure → (∀ path error, failure ≠ .disk path error) → t' = t) ∧
      ∀ (args' : List Text) (i' : Invocation) (environment' : List (Text × Text)),
        parse args' = .generate i' → SameButVerbose args args' → SameButLog environment environment' →
          ∃ told', (run (FileTree.disk cwd) cwd.path environment' args' terminal).run t = (told', t') ∧
            told'.exitCode = told.exitCode ∧ told'.output = told.output ∧
            told'.failure? = told.failure? := by
  rcases hscaffold : (i.scaffold (FileTree.disk cwd) cwd.path environment).run t with
    ⟨⟨events, result⟩, t'⟩
  refine ⟨events, result, t', _, hscaffold, run_of_generate h hscaffold terminal,
    exitCode_transcript _ _ _ _, ?_, fun message hmessage => ?_, fun failure hfailure hdisk => ?_,
    fun args' i' environment' h' hargs henvironment => ?_⟩
  · rw [failure?_transcript]
    cases result with
    | error failure => simp [Except.isOk, Except.toBool]
    | ok made => simp [Except.isOk, Except.toBool]
  · rw [failure?_transcript] at hmessage
    cases result with
    | error failure =>
      obtain rfl := Option.some.inj hmessage
      rw [collisionMark_prefix_complaint, ← isRefused_iff]
      rfl
    | ok made => cases hmessage
  · subst hfailure
    exact tree_of_scaffold hscaffold hdisk
  · have hquiet := quiet_eq h h' hargs
    have hsame := transcript_same hquiet henvironment terminal (events, result)
    rw [scaffold_same hquiet henvironment] at hscaffold
    obtain ⟨hcode, houtput, -, hfailure⟩ := Transcript.mk.inj hsame
    exact ⟨_, run_of_generate h' hscaffold terminal, hcode.symm, houtput.symm, hfailure.symm⟩

/-! ### A collision -/

/-- A tree in which the model `c` has been generated before. -/
def generatedBefore : FileTree :=
  (FileTree.empty.put "models" [] .directory).put "c.model.js" ["models"] (.file "")

/-- The arguments that ask for it again. -/
def again : List Text := ["upload", "c"]

theorem parse_again :
    parse again = .generate { options := {}, family := .upload, model := "c", tokens := [] } ∧
      parse ("-v" :: again) =
        .generate { options := { verbose := true }, family := .upload, model := "c", tokens := [] } := by
  decide +kernel

/-- On a terminal it is refused, marked as a collision in red and bold, and just so if the log is to show
everything. -/
theorem run_refines_scaffold_again :
    ∃ told told',
      (run (FileTree.disk []) (Place.path []) [("TERM", "xterm")] again true).run generatedBefore =
        (told, generatedBefore) ∧
      told.exitCode = 1 ∧
      (∃ message, told.failure? = some message ∧
        ("\x1b[31m\x1b[1m❌ Collision:\x1b[0m" : Text) <+: message) ∧
      (run (FileTree.disk []) (Place.path []) [("TERM", "xterm"), ("RUST_LOG", "trace")] ("-v" :: again)
        true).run generatedBefore = (told', generatedBefore) ∧
      told'.exitCode = told.exitCode ∧ told'.output = told.output ∧ told'.failure? = told.failure? := by
  obtain ⟨events, result, t', told, hscaffold, hrun, hcode, hfailure, hmark, htree, hsame⟩ :=
    run_refines_scaffold parse_again.1 generatedBefore [] [("TERM", "xterm")] true
  have hrefused : isRefused result = true := by
    have hresult := congrArg (fun answer => isRefused answer.1.2) hscaffold
    exact hresult.symm.trans (by decide +kernel)
  obtain ⟨path, model, label, rfl⟩ := isRefused_iff.1 hrefused
  obtain rfl := htree _ rfl (by simp)
  have hargs : SameButVerbose again ("-v" :: again) := by
    unfold SameButVerbose
    decide +kernel
  have henvironment : SameButLog [("TERM", "xterm")] [("TERM", "xterm"), ("RUST_LOG", "trace")] := by
    unfold SameButLog
    decide +kernel
  obtain ⟨told', hrun', hcode', houtput', hfailure'⟩ :=
    hsame ("-v" :: again) _ [("TERM", "xterm"), ("RUST_LOG", "trace")] parse_again.2 hargs henvironment
  refine ⟨told, told', hrun, hcode, ?_, hrun', hcode', houtput', hfailure'⟩
  cases hmessage : told.failure? with
  | none => cases hfailure.1 hmessage
  | some message => exact ⟨message, rfl, (hmark message hmessage).2 ⟨path, model, label, rfl⟩⟩

/-- With styles the message begins with a control sequence, and the mark comes after that. -/
theorem again_styled_not_marked :
    (∃ path model label, ((scaffold (FileTree.disk []) (Place.path []) (Place.path []) none
      [("CLICOLOR_FORCE", "1")] "c" [] .upload).run generatedBefore).1.2 =
        .error (.collision path model label)) ∧
    ∃ message, ((run (FileTree.disk []) (Place.path []) [("CLICOLOR_FORCE", "1")] again false).run
      generatedBefore).1.failure? = some message ∧ ¬("❌ Collision:" : Text) <+: message := by
  constructor
  · exact isRefused_iff.1 (by decide +kernel)
  · have hmark : (((run (FileTree.disk []) (Place.path []) [("CLICOLOR_FORCE", "1")] again false).run
        generatedBefore).1.failure?.any fun message =>
          !("❌ Collision:" : Text).isPrefixOf message) = true := by decide +kernel
    obtain ⟨message, hmessage, hno⟩ := (Option.any_eq_true _ _).1 hmark
    refine ⟨message, hmessage, fun hprefix => ?_⟩
    rw [List.isPrefixOf_iff_prefix.2 hprefix] at hno
    cases hno

end CommandLine

end CrudScaffold
