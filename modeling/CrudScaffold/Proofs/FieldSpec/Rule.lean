import CrudScaffold.FieldSpec.Block
import CrudScaffold.Proofs.FieldSpec.Token
import CrudScaffold.Proofs.Path

set_option autoImplicit false

/-! # Reading rules

A block of rules tells what is demanded of which field (`FieldSpec.readRules_ruleBlock`), and nothing else
(`FieldSpec.ruleBlock_congr`). It is cut at its colons: a name that is read from a token has none and a
rule has exactly one, so that every piece but the first begins with what a rule demands, and what comes
behind that and a line break is the name in the next rule, even if it has line breaks of its own. The
placeholder ends like no rule does. -/

namespace CrudScaffold

namespace FieldSpec

/-! ## Checks -/

/-- What a rule says behind its colon. -/
def check (kind : FieldKind) (required : Bool) : Text :=
  ' ' :: kind.validator ++ if required then (".required()" : Text) else []

theorem colon_notMem_check (kind : FieldKind) (required : Bool) : ':' ∉ check kind required := by
  cases kind <;> cases required <;> decide +kernel

/-- The kind whose expression a text begins with, and the text after it. -/
def kindAt? (s : Text) : Option (FieldKind × Text) :=
  [FieldKind.string, .number, .boolean, .date, .other].findSome? fun kind =>
    (Text.dropStart? (' ' :: kind.validator) s).map (kind, ·)

/-- Whether a text begins with the requirement, and the text after it. -/
def requiredAt (s : Text) : Bool × Text :=
  match Text.dropStart? ".required()" s with
  | some rest => (true, rest)
  | none => (false, s)

/-- The check that a text begins with, and the text after it. -/
def checkAt? (s : Text) : Option (FieldKind × Bool × Text) :=
  (kindAt? s).map fun (kind, rest) => (kind, requiredAt rest)

theorem kindAt?_validator (kind : FieldKind) (rest : Text) :
    kindAt? (' ' :: kind.validator ++ rest) = some (kind, rest) := by
  cases kind <;> rfl

theorem requiredAt_append (required : Bool) (rest : Text) (hrest : rest.head? ≠ some '.') :
    requiredAt ((if required then (".required()" : Text) else []) ++ rest) = (required, rest) := by
  cases required with
  | true => rfl
  | false =>
    have hdrop : Text.dropStart? ".required()" rest = none := by
      cases rest with
      | nil => rfl
      | cons c rest =>
        have hc : '.' ≠ c := fun e => hrest (by rw [e]; rfl)
        exact if_neg hc
    show requiredAt rest = (false, rest)
    rw [requiredAt, hdrop]

theorem checkAt?_check (kind : FieldKind) (required : Bool) (rest : Text)
    (hrest : rest.head? ≠ some '.') :
    checkAt? (check kind required ++ rest) = some (kind, required, rest) := by
  rw [checkAt?, check, List.append_assoc, kindAt?_validator, Option.map_some]
  dsimp only
  rw [requiredAt_append required rest hrest]

theorem validator_eq_iff {kind kind' : FieldKind} : kind.validator = kind'.validator ↔ kind = kind' := by
  refine ⟨fun h => ?_, congrArg FieldKind.validator⟩
  have hread := kindAt?_validator kind []
  rw [h, kindAt?_validator] at hread
  exact (Prod.mk.inj (Option.some.inj hread)).1.symm

/-! ## Demands -/

/-- What a rule demands. -/
structure Demand where
  name : Text
  kind : FieldKind
  required : Bool
  deriving DecidableEq, Repr

/-- What the rule of a field demands. -/
def demand (mode : RuleMode) (field : FieldSpec) : Demand :=
  ⟨field.name, field.kind, mode = .create ∧ field.required⟩

theorem demand_create_eq_iff {field field' : FieldSpec} :
    field.demand .create = field'.demand .create ↔ field.name = field'.name ∧
      field.kind.validator = field'.kind.validator ∧ field.required = field'.required := by
  simp [demand, validator_eq_iff]

theorem demand_update_eq_iff {field field' : FieldSpec} :
    field.demand .update = field'.demand .update ↔ field.name = field'.name ∧
      field.kind.validator = field'.kind.validator := by
  simp [demand, validator_eq_iff]

namespace Demand

/-- The rule for a demand. -/
def rule (d : Demand) : Text := ("  " : Text) ++ d.name ++ ':' :: check d.kind d.required

/-- What stands between the colons of some rules, from the first colon on. -/
def pieces (d : Demand) : List Demand → List Text
  | [] => [check d.kind d.required]
  | next :: rest => (check d.kind d.required ++ ((",\n      " : Text) ++ next.name)) :: next.pieces rest

theorem pieces_ne_nil (d : Demand) (rest : List Demand) : d.pieces rest ≠ [] := by
  cases rest <;> simp [pieces]

theorem splitOn_rules (d : Demand) (rest : List Demand) (h : ∀ d' ∈ d :: rest, ':' ∉ d'.name) :
    Text.splitOn ':' (List.intercalate (",\n    " : Text) ((d :: rest).map rule)) =
      (("  " : Text) ++ d.name) :: d.pieces rest := by
  induction rest generalizing d with
  | nil =>
    have hname : ':' ∉ ("  " : Text) ++ d.name := by simpa using h
    rw [List.map_singleton, List.intercalate_singleton, rule, Text.splitOn_append,
      Text.splitOn_of_notMem _ _ hname, Text.splitOn_of_notMem _ _ (colon_notMem_check _ _)]
    rfl
  | cons next rest ih =>
    rw [List.forall_mem_cons] at h
    have hname : ':' ∉ ("  " : Text) ++ d.name := by simpa using h.1
    have hcheck : ':' ∉ check d.kind d.required ++ (",\n    " : Text) := by
      simpa using colon_notMem_check d.kind d.required
    have hjoin : List.intercalate (",\n    " : Text) ((d :: next :: rest).map rule) =
        (("  " : Text) ++ d.name) ++ ':' :: ((check d.kind d.required ++ (",\n    " : Text)) ++
          List.intercalate (",\n    " : Text) ((next :: rest).map rule)) := by
      simp only [List.map_cons, List.intercalate_cons_cons, rule, List.append_assoc, List.cons_append]
    rw [hjoin, Text.splitOn_append, Text.splitOn_of_notMem _ _ hname,
      Text.splitOn_append_of_notMem _ _ _ hcheck, ih next h.2]
    simp only [List.headD_cons, List.tail_cons, List.singleton_append, List.append_assoc]
    rfl

end Demand

/-! ## Reading a block -/

/-- Read rules from the name in the first one and what stands between the colons. -/
def readPieces? (name : Text) : List Text → Option (List Demand)
  | [] => none
  | piece :: pieces => do
    let (kind, required, rest) ← checkAt? piece
    match pieces with
    | [] => if rest = [] then some [⟨name, kind, required⟩] else none
    | _ :: _ =>
      let next ← Text.dropStart? ",\n      " rest
      let demands ← readPieces? next pieces
      some (⟨name, kind, required⟩ :: demands)

/-- The demands of a block of rules. A text that is no such block has none. -/
def readRules (block : Text) : List Demand :=
  match Text.splitOn ':' block with
  | [] => []
  | first :: pieces =>
    ((Text.dropStart? "  " first).bind fun name => readPieces? name pieces).getD []

theorem readPieces?_pieces (d : Demand) (rest : List Demand) :
    readPieces? d.name (d.pieces rest) = some (d :: rest) := by
  induction rest generalizing d with
  | nil =>
    have hcheck := checkAt?_check d.kind d.required [] (by simp)
    rw [List.append_nil] at hcheck
    simp [Demand.pieces, readPieces?, hcheck]
  | cons next rest ih =>
    have hcheck := checkAt?_check d.kind d.required ((",\n      " : Text) ++ next.name) (by rintro ⟨⟩)
    have hdrop : Text.dropStart? ",\n      " ((",\n      " : Text) ++ next.name) = some next.name := rfl
    have hread := ih next
    -- The reader asks first whether another piece follows.
    obtain ⟨piece, pieces, hpieces⟩ := List.exists_cons_of_ne_nil (next.pieces_ne_nil rest)
    rw [hpieces] at hread
    rw [Demand.pieces, readPieces?, hcheck, hpieces]
    simp only [Option.bind_eq_bind, Option.bind_some, hdrop, hread]

/-! ## Blocks -/

variable {mode mode' : RuleMode} {fields fields' : List FieldSpec} {placeholder : Bool}

theorem rule_eq (mode : RuleMode) (field : FieldSpec) : rule mode field = (field.demand mode).rule := by
  have hcolon : (": " : Text) = [':', ' '] := rfl
  -- To unfold by its equations would read the literals in it.
  delta rule Demand.rule check demand
  simp only [hcolon, decide_eq_true_eq, List.append_assoc, List.cons_append, List.nil_append]

theorem map_rule (mode : RuleMode) (fields : List FieldSpec) :
    fields.map (rule mode) = (fields.map (demand mode)).map Demand.rule := by
  simp [rule_eq]

/-- **Reading a block.** Fields whose names have no colon are told by the block of their rules, one by
one and in their order, and a block without fields tells none, placeholder or not. -/
theorem readRules_ruleBlock (h : ∀ field ∈ fields, ':' ∉ field.name) :
    readRules (ruleBlock mode fields placeholder) = fields.map (demand mode) := by
  cases fields with
  | nil => cases mode <;> cases placeholder <;> decide +kernel
  | cons field rest =>
    have hcolon : ∀ d ∈ (field :: rest).map (demand mode), ':' ∉ d.name := by simpa [demand] using h
    have hname : Text.dropStart? "  " (("  " : Text) ++ (field.demand mode).name) =
        some (field.demand mode).name := rfl
    have hread := readPieces?_pieces (field.demand mode) (rest.map (demand mode))
    rw [readRules, ruleBlock, if_neg (by simp), map_rule, List.map_cons,
      Demand.splitOn_rules _ _ hcolon]
    simp only [hname, Option.bind_some, hread, Option.getD_some]

/-- What looks like the border between two rules may be part of a name. -/
example : readRules (ruleBlock .create (["a,\n      b:tags:TRUE", "c"].map fun token => parse token) true) =
    [⟨"a,\n      b", .other, true⟩, ⟨"c", .string, false⟩] := by decide +kernel

/-- A block says nothing of its fields but what it demands of them. -/
theorem ruleBlock_congr (h : fields.map (demand mode) = fields'.map (demand mode')) :
    ruleBlock mode fields placeholder = ruleBlock mode' fields' placeholder := by
  have hnil : fields = [] ↔ fields' = [] := by
    rw [← List.map_eq_nil_iff, h, List.map_eq_nil_iff]
  simp only [ruleBlock, hnil, map_rule, h]

/-! ## Blocks of tokens -/

variable {tokens tokens' : List Text}

theorem map_eq_map_iff_forall₂ {α β γ : Type} {f : α → γ} {g : β → γ} {l : List α} {l' : List β} :
    l.map f = l'.map g ↔ List.Forall₂ (fun a b => f a = g b) l l' := by
  rw [← List.forall₂_eq_eq_eq, List.forall₂_map_left_iff, List.forall₂_map_right_iff]

theorem readRules_of_tokens (mode : RuleMode) (tokens : List Text) (placeholder : Bool) :
    readRules (ruleBlock mode (tokens.map parse) placeholder) =
      tokens.map fun token => (parse token).demand mode := by
  have hcolon : ∀ field ∈ tokens.map parse, ':' ∉ field.name := by
    simpa using fun token _ => (wellFormed_parse token).name
  rw [readRules_ruleBlock hcolon, List.map_map]
  rfl

theorem ruleBlock_eq_iff :
    ruleBlock mode (tokens.map parse) placeholder = ruleBlock mode' (tokens'.map parse) placeholder ↔
      List.Forall₂ (fun token token' => (parse token).demand mode = (parse token').demand mode')
        tokens tokens' := by
  rw [← map_eq_map_iff_forall₂]
  constructor
  · intro h
    rw [← readRules_of_tokens mode tokens placeholder, h, readRules_of_tokens]
  · intro h
    exact ruleBlock_congr (by rw [List.map_map, List.map_map]; exact h)

/-- **What rules tell.** The blocks of two lists of tokens for new data say the same exactly if the tokens
agree one by one in name, validator and requirement, those for changes if they agree in name and
validator. So the one block determines the other, and each tells the names in their order. -/
theorem told_by_rules (tokens tokens' : List Text) (placeholder : Bool) :
    (ruleBlock .create (tokens.map parse) placeholder = ruleBlock .create (tokens'.map parse) placeholder ↔
      List.Forall₂ (fun token token' => (parse token).name = (parse token').name ∧
        (parse token).kind.validator = (parse token').kind.validator ∧
        (parse token).required = (parse token').required) tokens tokens') ∧
    (ruleBlock .update (tokens.map parse) placeholder = ruleBlock .update (tokens'.map parse) placeholder ↔
      List.Forall₂ (fun token token' => (parse token).name = (parse token').name ∧
        (parse token).kind.validator = (parse token').kind.validator) tokens tokens') ∧
    (ruleBlock .create (tokens.map parse) placeholder = ruleBlock .create (tokens'.map parse) placeholder →
      ruleBlock .update (tokens.map parse) placeholder = ruleBlock .update (tokens'.map parse) placeholder) ∧
    ∀ mode, readRules (ruleBlock mode (tokens.map parse) placeholder) =
      tokens.map fun token => (parse token).demand mode := by
  refine ⟨?_, ?_, ?_, fun mode => readRules_of_tokens mode tokens placeholder⟩
  · simp only [ruleBlock_eq_iff, demand_create_eq_iff]
  · simp only [ruleBlock_eq_iff, demand_update_eq_iff]
  · simp only [ruleBlock_eq_iff, demand_create_eq_iff, demand_update_eq_iff]
    exact fun h => h.imp fun _ _ hsame => ⟨hsame.1, hsame.2.1⟩

/-! ## Without requirements -/

/-- The token of a field with its requirement taken away. -/
def cleared (token : Text) : Text := FieldSpec.token { parse token with required := false }

theorem parse_cleared (token : Text) : parse (cleared token) = { parse token with required := false } := by
  have h := wellFormed_parse token
  exact parse_token_of_wellFormed ⟨h.name, h.tag_ne_nil, h.tag, h.kind⟩

theorem demand_cleared (token : Text) (mode : RuleMode) :
    (parse (cleared token)).demand mode = (parse token).demand .update := by
  simp [parse_cleared, demand]

/-- **Changes demand what cleared tokens do.** The rules for changes are the rules for new data of the
cleared tokens, and it makes no difference to them which tokens are cleared. -/
theorem updateRules_eq_cleared (tokens : List Text) (placeholder : Bool) :
    ruleBlock .update (tokens.map parse) placeholder =
        ruleBlock .create ((tokens.map cleared).map parse) placeholder ∧
      ∀ tokens', List.Forall₂ (fun token token' => token' = token ∨ token' = cleared token) tokens tokens' →
        ruleBlock .update (tokens'.map parse) placeholder = ruleBlock .update (tokens.map parse) placeholder := by
  constructor
  · rw [ruleBlock_eq_iff, List.forall₂_map_right_iff, List.forall₂_same]
    exact fun token _ => (demand_cleared token .create).symm
  · intro tokens' h
    refine Eq.symm (ruleBlock_eq_iff.2 (h.imp fun token token' hor => ?_))
    rcases hor with rfl | rfl
    · rfl
    · exact (demand_cleared token .update).symm

end FieldSpec

end CrudScaffold
