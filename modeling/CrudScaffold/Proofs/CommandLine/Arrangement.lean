import CrudScaffold.Proofs.CommandLine.Switches

set_option autoImplicit false

/-! # Where the options stand

The options of a command line may stand before the family, after it, and among the name of the model and the
tokens of the fields, each with its value in the same argument or in the next one. All these arrangements
(`CommandLine.Arranged`) come to the same invocation (`CommandLine.parse_arranged`): an option is read as one
word, whatever stands next to it, and that word does nothing but add the option to those before it. So a value
may read like the name of a family, and the token of a field like one. -/

namespace CrudScaffold

namespace CommandLine

/-! ## Arrangements -/

/-- The arguments that give a value to an option: one with an equals sign in it, or two. -/
def valued (attached : Bool) (option value : Text) : List Text :=
  if attached then [option ++ '=' :: value] else [option, value]

/-- Whether a path can be the value of an option wherever it stands. -/
def IsValue (p : Path) : Prop := p.text ≠ [] ∧ looksLikeOption p.text = false

/-- The arguments that give one more option than some options that do not have it. -/
inductive Gives : List Text → Options → Options → Prop
  | root {options : Options} (attached : Bool) (dir : Path) (hdir : IsValue dir) (hfree : options.root? = none) :
      Gives (valued attached "--root" dir.text) options { options with root? := some dir }
  | config {options : Options} (attached : Bool) (file : Path) (hfile : IsValue file)
      (hfree : options.config? = none) :
      Gives (valued attached "--config" file.text) options { options with config? := some file }
  | short {options : Options} (hfree : options.verbose = false) :
      Gives ["-v"] options { options with verbose := true }
  | long {options : Options} (hfree : options.verbose = false) :
      Gives ["--verbose"] options { options with verbose := true }

/-- The command lines with some options and some other arguments. The options stand anywhere, each of them
once, and the other arguments, which do not look like options, stand in their order. -/
inductive Arranged : Options → List Text → List Text → Prop
  | nil : Arranged {} [] []
  | other {options : Options} {others args : List Text} (text : Text) (htext : looksLikeOption text = false)
      (h : Arranged options others args) : Arranged options (text :: others) (text :: args)
  | option {fewer options : Options} {others given args : List Text} (hgives : Gives given fewer options)
      (h : Arranged fewer others args) : Arranged options others (given ++ args)

/-! ## The words of an arrangement -/

variable {fewer options before after : Options} {others given args plain tokens : List Text}
  {text model : Text} {family : Family} {p : Path}

theorem words_other (h : looksLikeOption text = false) (args : List Text) :
    words (text :: args) = .plain text :: words args := by
  cases text with
  | nil => rfl
  | cons c s =>
    by_cases hc : c = '-'
    · subst hc
      obtain rfl : s = [] := by simpa [looksLikeOption] using h
      rfl
    · rw [words.eq_def]
      simp [hc]

theorem words_root (attached : Bool) (h : IsValue p) (args : List Text) :
    words (valued attached "--root" p.text ++ args) = .root attached p :: words args := by
  cases attached with
  | true => rfl
  | false =>
    show (if looksLikeOption p.text then _ else _) = _
    rw [h.2]
    rfl

theorem words_config (attached : Bool) (h : IsValue p) (args : List Text) :
    words (valued attached "--config" p.text ++ args) = .config attached p :: words args := by
  cases attached with
  | true => rfl
  | false =>
    show (if looksLikeOption p.text then _ else _) = _
    rw [h.2]
    rfl

/-! ## Taking in the options -/

/-- Whether no option is among both. -/
structure Options.Apart (options options' : Options) : Prop where
  root : options.root? = none ∨ options'.root? = none
  config : options.config? = none ∨ options'.config? = none
  verbose : options.verbose = false ∨ options'.verbose = false

theorem Options.apart_empty (options : Options) : Options.Apart {} options := ⟨.inl rfl, .inl rfl, .inl rfl⟩

theorem Options.orElse_empty (options : Options) : options.orElse {} = options := by
  simp [Options.orElse]

/-- An option of an arrangement is one word. It is taken in after options that are apart from it, and in the
end it does not matter whether it was taken in with those before it or with those after it. -/
theorem Gives.exists_word (h : Gives given fewer options) :
    ∃ word : Word, word.isOption = true ∧ (∀ args, words (given ++ args) = word :: words args) ∧
      ∀ before : Options, before.Apart options → ∃ later, before.add? word = some later ∧
        later.Apart fewer ∧ fewer.orElse later = options.orElse before := by
  cases h with
  | root attached dir hdir hfree =>
    refine ⟨.root attached dir, rfl, words_root attached hdir, fun before hapart => ?_⟩
    have hnone : before.root? = none := hapart.root.resolve_right (by simp)
    refine ⟨{ before with root? := some dir }, ?_, ⟨.inr hfree, hapart.config, hapart.verbose⟩, ?_⟩
    · simp [Options.add?, hnone, hdir.1]
    · simp [Options.orElse, hfree]
  | config attached file hfile hfree =>
    refine ⟨.config attached file, rfl, words_config attached hfile, fun before hapart => ?_⟩
    have hnone : before.config? = none := hapart.config.resolve_right (by simp)
    refine ⟨{ before with config? := some file }, ?_, ⟨hapart.root, .inr hfree, hapart.verbose⟩, ?_⟩
    · simp [Options.add?, hnone, hfile.1]
    · simp [Options.orElse, hfree]
  | short hfree | long hfree =>
    refine ⟨.verbose, rfl, fun args => rfl, fun before hapart => ?_⟩
    have hnone : before.verbose = false := hapart.verbose.resolve_right (by simp)
    refine ⟨{ before with verbose := true }, ?_, ⟨hapart.root, hapart.config, .inr hfree⟩, ?_⟩
    · simp [Options.add?, hnone]
    · simp [Options.orElse]

/-- After the family, the options are collected, and so are the other arguments. -/
theorem afterFamily_arranged (h : Arranged options others args) (hapart : after.Apart options) :
    afterFamily family before after plain (words args) =
      match plain.reverse ++ others with
      | [] => .mistake
      | model :: tokens => .generate ⟨(options.orElse after).orElse before, family, model, tokens⟩ := by
  induction h generalizing after plain with
  | nil =>
    rw [List.append_nil, words, afterFamily]
    cases plain.reverse <;> simp [Options.orElse]
  | other text htext h ih =>
    rw [words_other htext, afterFamily, ih hapart, List.reverse_cons, List.append_assoc, List.singleton_append]
  | option hgives h ih =>
    obtain ⟨word, hoption, hwords, htaken⟩ := hgives.exists_word
    obtain ⟨later, hadd, hapart', horElse⟩ := htaken after hapart
    rw [hwords, afterFamily_option hoption, hadd]
    dsimp only
    rw [ih hapart', horElse]

theorem ofName?_name (family : Family) : Family.ofName? family.name = some family := by
  cases family <;> rfl

/-- Before the family, the options are collected. -/
theorem beforeFamily_arranged (h : Arranged options others args)
    (hothers : others = family.name :: model :: tokens) (hapart : before.Apart options) :
    beforeFamily before (words args) = .generate ⟨options.orElse before, family, model, tokens⟩ := by
  induction h generalizing before with
  | nil => cases hothers
  | other text htext h ih =>
    obtain ⟨rfl, rfl⟩ := List.cons.inj hothers
    rw [words_other htext, beforeFamily, ofName?_name]
    dsimp only
    rw [afterFamily_arranged h (Options.apart_empty _), Options.orElse_empty]
    rfl
  | option hgives h ih =>
    obtain ⟨word, hoption, hwords, htaken⟩ := hgives.exists_word
    obtain ⟨later, hadd, hapart', horElse⟩ := htaken before hapart
    rw [hwords, beforeFamily_option hoption hadd, ih hothers hapart', horElse]

/-- **Where the options stand.** A command line with a family, a model and tokens comes to an invocation that
has these and the options, wherever among them the options stand and however their values are written. -/
theorem parse_arranged (h : Arranged options (family.name :: model :: tokens) args) :
    parse args = .generate ⟨options, family, model, tokens⟩ := by
  rw [parse, beforeFamily_arranged h rfl (Options.apart_empty options), Options.orElse_empty]

/-- Options on both sides of the family and among the tokens, with a root that is called like a family and a
token that is called like the option before it. -/
theorem parse_arranged_scattered :
    parse ["--root", "model", "upload", "-v", "user", "--config=a=b", "root"] =
      .generate ⟨{ root? := some ⟨"model"⟩, config? := some ⟨"a=b"⟩, verbose := true }, .upload, "user",
        ["root"]⟩ :=
  parse_arranged
    (.option (.root false ⟨"model"⟩ ⟨by decide, by decide⟩ rfl)
      (.other "upload" (by decide)
        (.option (.short rfl)
          (.other "user" (by decide)
            (.option (.config true ⟨"a=b"⟩ ⟨by decide, by decide⟩ rfl)
              (.other "root" (by decide) .nil))))))

end CommandLine

end CrudScaffold
