import CrudScaffold.CommandLine.Run

set_option autoImplicit false

/-! # Switches of the log

The option `--verbose` and the variable `RUST_LOG` say what the log shows. A command line without that
option comes to the same invocation, but for the option itself (`CommandLine.quiet_eq`), and settings and
styles are the same in an environment without that variable. -/

namespace CrudScaffold

namespace CommandLine

/-! ## The option -/

/-- Options without the one that only changes the log. -/
def Options.quiet (options : Options) : Options := { options with verbose := false }

/-- An invocation without the option that only changes the log. -/
def Invocation.quiet (i : Invocation) : Invocation := { i with options := i.options.quiet }

/-- Words without the option that only changes the log. -/
def quietWords (words : List Word) : List Word := words.filter (· != .verbose)

/-- Whether two command lines are the same but for the option that only changes the log. -/
def SameButVerbose (args args' : List Text) : Prop := quietWords (words args) = quietWords (words args')

variable {args args' : List Text} {family : Family} {before after : Options} {plain : List Text}
  {word : Word} {ws : List Word} {i i' : Invocation}

theorem quietWords_verbose (ws : List Word) : quietWords (.verbose :: ws) = quietWords ws := rfl

theorem quietWords_cons (h : word ≠ .verbose) (ws : List Word) :
    quietWords (word :: ws) = word :: quietWords ws :=
  List.filter_cons_of_pos (by simpa using h)

theorem quiet_add?_verbose (h : before.add? .verbose = some after) : after.quiet = before.quiet := by
  rw [Options.add?] at h
  split at h
  · cases h
  · obtain rfl := Option.some.inj h
    rfl

theorem quiet_add? (h : before.add? word = some after) (hne : word ≠ .verbose) :
    before.quiet.add? word = some after.quiet := by
  cases word with
  | root attached p | config attached p =>
    rw [Options.add?] at h ⊢
    split at h
    · cases h
    · next hfree =>
      obtain rfl := Option.some.inj h
      exact if_neg hfree
  | verbose => exact absurd rfl hne
  | _ => cases h

/-- Whether a word is an option that is taken in. -/
def Word.isOption : Word → Bool
  | root .. | config .. | verbose => true
  | _ => false

theorem afterFamily_option (h : word.isOption = true) :
    afterFamily family before after plain (word :: ws) =
      match after.add? word with
      | some after => afterFamily family before after plain ws
      | none => .mistake := by
  cases word with
  | root | config | verbose => rfl
  | _ => cases h

theorem beforeFamily_option (h : word.isOption = true) (hadd : before.add? word = some after) :
    beforeFamily before (word :: ws) = beforeFamily after ws := by
  cases word with
  | root | config | verbose => simp only [beforeFamily, hadd]
  | _ => cases h

/-- Whatever follows an option that cannot be taken in, it is help or a mistake. -/
theorem exists_add?_of_beforeFamily (h : word.isOption = true)
    (hgenerate : beforeFamily before (word :: ws) = .generate i) :
    ∃ after, before.add? word = some after := by
  cases hadd : before.add? word with
  | some after => exact ⟨after, rfl⟩
  | none =>
    exfalso
    cases word with
    | root | config | verbose =>
      simp only [beforeFamily, hadd] at hgenerate
      split at hgenerate
      · split at hgenerate <;> cases hgenerate
      · cases hgenerate
    | _ => cases h

theorem helpAbout_ne_generate (ws : List Word) (i : Invocation) : helpAbout ws ≠ .generate i := by
  intro h
  unfold helpAbout at h
  split at h
  · cases h
  · split at h <;> cases h
  · cases h

/-- The words after the family come to the same invocation without the option. -/
theorem afterFamily_quiet (h : afterFamily family before after plain ws = .generate i) :
    afterFamily family before.quiet after.quiet plain (quietWords ws) = .generate i.quiet := by
  induction ws generalizing after plain with
  | nil =>
    rw [afterFamily] at h
    rw [quietWords, List.filter_nil, afterFamily]
    cases hplain : plain.reverse with
    | nil =>
      rw [hplain] at h
      cases h
    | cons model tokens =>
      rw [hplain] at h
      cases h
      rfl
  | cons word ws ih =>
    cases hoption : word.isOption with
    | false =>
      cases word with
      | plain text => exact ih h
      | endOfOptions => exact ih h
      | root | config | verbose => cases hoption
      | help | version | mistake => cases h
    | true =>
      rw [afterFamily_option hoption] at h
      cases hadd : after.add? word with
      | none =>
        rw [hadd] at h
        cases h
      | some later =>
        rw [hadd] at h
        by_cases hverbose : word = .verbose
        · subst hverbose
          rw [quietWords_verbose, ← quiet_add?_verbose hadd]
          exact ih h
        · rw [quietWords_cons hverbose, afterFamily_option hoption, quiet_add? hadd hverbose]
          exact ih h

/-- The words of a command line come to the same invocation without the option. -/
theorem beforeFamily_quiet (h : beforeFamily before ws = .generate i) :
    beforeFamily before.quiet (quietWords ws) = .generate i.quiet := by
  induction ws generalizing before with
  | nil => cases h
  | cons word ws ih =>
    cases hoption : word.isOption with
    | false =>
      cases word with
      | plain text =>
        rw [beforeFamily] at h
        rw [quietWords_cons (by simp), beforeFamily]
        cases hfamily : Family.ofName? text with
        | none =>
          rw [hfamily] at h
          dsimp only at h
          split at h
          · exact absurd h (helpAbout_ne_generate ws i)
          · cases h
        | some family =>
          rw [hfamily] at h
          exact afterFamily_quiet h
      | root | config | verbose => cases hoption
      | help | version | mistake | endOfOptions => cases h
    | true =>
      obtain ⟨after, hadd⟩ := exists_add?_of_beforeFamily hoption h
      rw [beforeFamily_option hoption hadd] at h
      by_cases hverbose : word = .verbose
      · subst hverbose
        rw [quietWords_verbose, ← quiet_add?_verbose hadd]
        exact ih h
      · rw [quietWords_cons hverbose, beforeFamily_option hoption (quiet_add? hadd hverbose)]
        exact ih h

/-- Two command lines that are the same but for the option come to the same invocation but for the
option. -/
theorem quiet_eq (h : parse args = .generate i) (h' : parse args' = .generate i')
    (hsame : SameButVerbose args args') : i.quiet = i'.quiet := by
  have hquiet := beforeFamily_quiet h
  rw [hsame] at hquiet
  exact Command.generate.inj (hquiet.symm.trans (beforeFamily_quiet h'))

/-! ## The variable -/

/-- An environment without the variable that only changes the log. -/
def quietVariables (environment : List (Text × Text)) : List (Text × Text) :=
  environment.filter fun entry => entry.1 != ("RUST_LOG" : Text)

/-- Whether two environments are the same but for the variable that only changes the log. -/
def SameButLog (environment environment' : List (Text × Text)) : Prop :=
  quietVariables environment = quietVariables environment'

variable {environment environment' : List (Text × Text)}

theorem lookup_quietVariables (environment : List (Text × Text)) (name : Text)
    (h : name ≠ ("RUST_LOG" : Text)) :
    (quietVariables environment).lookup name = environment.lookup name :=
  Setting.lookup_filter_of_test (· != ("RUST_LOG" : Text)) environment name (by simpa using h)

/-- Whether styles are used depends on other variables. -/
theorem usesStyles_quietVariables (environment : List (Text × Text)) (terminal : Bool) :
    usesStyles (quietVariables environment) terminal = usesStyles environment terminal := by
  unfold usesStyles showsStyles
  rw [lookup_quietVariables environment "NO_COLOR" (by decide),
    lookup_quietVariables environment "TERM" (by decide),
    lookup_quietVariables environment "CLICOLOR" (by decide),
    lookup_quietVariables environment "CLICOLOR_FORCE" (by decide)]

/-- The name of the variable has not the beginning of the names of settings. -/
theorem layer_quietVariables (environment : List (Text × Text)) :
    Environment.layer (quietVariables environment) = Environment.layer environment := by
  have hkeys : Environment.keys? "RUST_LOG" = none := rfl
  unfold Environment.layer quietVariables
  rw [List.foldl_filter]
  congr 1
  funext settings entry
  obtain ⟨name, text⟩ := entry
  dsimp only
  split
  · rfl
  · next hname =>
    obtain rfl : name = ("RUST_LOG" : Text) := by simpa only [bne_iff_ne, Decidable.not_not] using hname
    rw [hkeys]

theorem SameButLog.usesStyles_eq (h : SameButLog environment environment') (terminal : Bool) :
    usesStyles environment terminal = usesStyles environment' terminal := by
  rw [← usesStyles_quietVariables, h, usesStyles_quietVariables]

theorem SameButLog.layer_eq (h : SameButLog environment environment') :
    Environment.layer environment = Environment.layer environment' := by
  rw [← layer_quietVariables, h, layer_quietVariables]

end CommandLine

end CrudScaffold
