import CrudScaffold.Proofs.FieldSpec.Rule
import CrudScaffold.Proofs.Plan

set_option autoImplicit false

/-! # Fields without a name

Blank tokens are passed over because they would give fields without a name. They are not the only ones: so
does a token that begins with a colon, and it is not blank. A resource has a field without a name for every
such token that it was asked for, and no other one (`Resource.namesFields_iff`); its rules tell these fields
with nothing before the colon. -/

namespace CrudScaffold

namespace FieldSpec

variable {token : Text}

theorem name_parse (token : Text) : (parse token).name = (token.cut ':').1 := rfl

theorem name_parse_eq_nil_iff : (parse token).name = [] ↔ token = [] ∨ token.head? = some ':' := by
  rw [name_parse]
  cases token with
  | nil => simp [Text.cut]
  | cons c s =>
    rw [Text.cut]
    split
    · next hc => simp [hc]
    · next hc => simp [hc]

theorem isBlank_of_head? (h : token.head? = some ':') : token.isBlank = false := by
  obtain ⟨rest, rfl⟩ := List.head?_eq_some_iff.1 h
  rw [Text.isBlank, List.all_cons]
  rfl

/-- Of the tokens that are not blank, those that begin with a colon give fields without a name. -/
theorem filter_name_eq_nil (tokens : List Text) :
    ((tokens.filter fun token => !token.isBlank).map parse).filter (fun field => field.name = []) =
      (tokens.filter fun token => token.head? = some ':').map parse := by
  rw [List.filter_map, List.filter_filter]
  refine congrArg (List.map parse) (List.filter_congr fun token _ => ?_)
  rw [Function.comp_apply, Bool.eq_iff_iff, Bool.and_eq_true, decide_eq_true_eq, decide_eq_true_eq,
    name_parse_eq_nil_iff, Bool.not_eq_true']
  constructor
  · rintro ⟨rfl | hcolon, hblank⟩
    · exact absurd hblank (by decide)
    · exact hcolon
  · exact fun hcolon => ⟨Or.inr hcolon, isBlank_of_head? hcolon⟩

end FieldSpec

open FieldSpec

namespace Resource

variable {r : Resource} {model : Text} {tokens : List Text} {family : Family} {settings : Settings}

/-- Whether every field of a resource has a name. -/
def NamesFields (r : Resource) : Prop := ∀ withFixed, ∀ field ∈ r.fields withFixed, field.name ≠ []

theorem filter_fixed (family : Family) (withFixed : Bool) :
    ((if withFixed then family.fixedTokens else []).map parse).filter (fun field => field.name = []) = [] := by
  cases withFixed with
  | false => rfl
  | true => cases family <;> decide +kernel

/-- The fields without a name, whether the fixed ones are among the fields or not. -/
theorem filter_fields (h : ofInput model tokens family settings = .ok r) (withFixed : Bool) :
    (r.fields withFixed).filter (fun field => field.name = []) =
      (tokens.filter fun token => token.head? = some ':').map parse := by
  obtain ⟨-, -, -, htokens⟩ := ofInput_eq_ok h
  rw [fields, List.map_append, List.filter_append, filter_fixed, htokens, filter_name_eq_nil, List.nil_append]

/-- The rules of a resource tell its fields. -/
theorem readRules_fields (r : Resource) (mode : RuleMode) :
    readRules (ruleBlock mode (r.fields r.family.validatesFixed) r.family.usesPlaceholder) =
      (r.fields r.family.validatesFixed).map (demand mode) := by
  refine readRules_ruleBlock fun field hfield => ?_
  obtain ⟨token, -, rfl⟩ := List.mem_map.1 hfield
  exact (wellFormed_parse token).name

theorem filter_rules (h : ofInput model tokens family settings = .ok r) (mode : RuleMode) :
    (readRules (ruleBlock mode (r.fields r.family.validatesFixed) r.family.usesPlaceholder)).filter
        (fun d => d.name = []) =
      (tokens.filter fun token => token.head? = some ':').map fun token => (parse token).demand mode := by
  have hfilter := congrArg (List.map (demand mode)) (filter_fields h r.family.validatesFixed)
  rw [List.map_map] at hfilter
  rw [readRules_fields, List.filter_map]
  exact hfilter

/-- **Names of fields.** A resource has a field without a name for each token that begins with a colon, and
its rules tell one. So all its fields have names exactly if no token begins so. -/
theorem namesFields_iff (h : ofInput model tokens family settings = .ok r) :
    (r.NamesFields ↔ ∀ token ∈ tokens, token.head? ≠ some ':') ∧
      (∀ withFixed, (r.fields withFixed).filter (fun field => field.name = []) =
        (tokens.filter fun token => token.head? = some ':').map parse) ∧
      (readRules (r.slotText .createRules)).filter (fun d => d.name = []) =
        ((tokens.filter fun token => token.head? = some ':').map fun token => (parse token).demand .create) ∧
      (readRules (r.slotText .updateRules)).filter (fun d => d.name = []) =
        (tokens.filter fun token => token.head? = some ':').map fun token => (parse token).demand .update := by
  refine ⟨⟨?_, ?_⟩, filter_fields h, filter_rules h .create, filter_rules h .update⟩
  · intro hnames token htoken hcolon
    have hfield : parse token ∈ (r.fields true).filter fun field => field.name = [] := by
      rw [filter_fields h]
      exact List.mem_map_of_mem (List.mem_filter.2 ⟨htoken, by simpa using hcolon⟩)
    rw [List.mem_filter, decide_eq_true_eq] at hfield
    exact hnames true _ hfield.1 hfield.2
  · intro htokens withFixed field hfield hname
    have hnone : (tokens.filter fun token => token.head? = some ':') = [] :=
      List.filter_eq_nil_iff.2 fun token htoken => by simpa using htokens token htoken
    have hmem : field ∈ (r.fields withFixed).filter fun field => field.name = [] :=
      List.mem_filter.2 ⟨hfield, by simpa using hname⟩
    rw [filter_fields h, hnone] at hmem
    simp at hmem

/-- A resource that is asked for a type without a name. -/
def unnamed : Resource where
  model := "song"
  tokens := [":string"]
  family := .model
  settings := {}
  isModelName_model := isModelName_song
  isBlank_token := by decide +kernel

/-- A blank token is passed over, one that begins with a colon is not. -/
theorem namesFields_iff_unnamed :
    ofInput unnamed.model ([' '] :: unnamed.tokens) .model {} = .ok unnamed ∧
      (unnamed.NamesFields ↔ ∀ token ∈ [' '] :: unnamed.tokens, token.head? ≠ some ':') ∧
      (∀ withFixed, (unnamed.fields withFixed).filter (fun field => field.name = []) =
        (([' '] :: unnamed.tokens).filter fun token => token.head? = some ':').map parse) ∧
      (readRules (unnamed.slotText .createRules)).filter (fun d => d.name = []) =
        ((([' '] :: unnamed.tokens).filter fun token => token.head? = some ':').map
          fun token => (parse token).demand .create) ∧
      (readRules (unnamed.slotText .updateRules)).filter (fun d => d.name = []) =
        (([' '] :: unnamed.tokens).filter fun token => token.head? = some ':').map
          fun token => (parse token).demand .update := by
  have h : ofInput unnamed.model ([' '] :: unnamed.tokens) .model {} = .ok unnamed := rfl
  exact ⟨h, namesFields_iff h⟩

theorem not_namesFields_unnamed :
    ofInput "song" [":string"] .model {} = .ok unnamed ∧ ¬unnamed.NamesFields := by
  refine ⟨rfl, fun hnames => ?_⟩
  have hmem : parse ":string" ∈ unnamed.fields true := by decide +kernel
  have hname : (parse ":string").name = [] := by decide +kernel
  exact hnames true _ hmem hname

end Resource

end CrudScaffold
