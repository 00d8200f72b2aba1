import CrudScaffold.Proofs.Imports
import CrudScaffold.Proofs.Occurrence

set_option autoImplicit false

/-! # Handlers

The router of a resource imports from the controller what the controller exports, and mounts all of it, and
the controller declares each handler once (`Resource.exists_handlersAgree`). All of this is read off the
texts of the two files, for a model of any name.

The three lists are lists of words, and the name of a model has no space, so the names of the handlers are
words of their own, whatever marks they have. A declaration is three words in a row of which the first begins
with a small letter. The boilerplate has no such words but at the start of its endpoints, and the text of a
slot cannot make them up: where it begins a word after an equals sign, the word before the sign is a brace. -/

namespace CrudScaffold

open Boilerplate

/-! ## Names -/

namespace Family

/-- The names of the handlers of a family, from the name of the class of its model. -/
def handlerNames : Family → Text → List Text
  | model, pascal =>
    [("create" : Text) ++ pascal, ("getAll" : Text) ++ pascal ++ ("s" : Text),
      ("get" : Text) ++ pascal ++ ("ById" : Text), ("update" : Text) ++ pascal, ("delete" : Text) ++ pascal]
  | upload, pascal =>
    [("create" : Text) ++ pascal, ("getAll" : Text) ++ pascal ++ ("s" : Text),
      ("get" : Text) ++ pascal ++ ("ById" : Text), ("delete" : Text) ++ pascal]
  | user, pascal =>
    ["register", "login", ("getAll" : Text) ++ pascal ++ ("s" : Text),
      ("get" : Text) ++ pascal ++ ("ById" : Text), ("update" : Text) ++ pascal, ("delete" : Text) ++ pascal]

variable {family : Family} {pascal name : Text}

theorem handlerNames_ne_nil (family : Family) (pascal : Text) : family.handlerNames pascal ≠ [] := by
  cases family <;> simp [handlerNames]

theorem getAll_ne_getById (pascal : Text) :
    ("getAll" : Text) ++ pascal ++ ("s" : Text) ≠ ("get" : Text) ++ pascal ++ ("ById" : Text) := by
  intro h
  have hlast := congrArg List.getLast? h
  rw [List.getLast?_append_of_ne_nil _ (by decide), List.getLast?_append_of_ne_nil _ (by decide)] at hlast
  exact absurd hlast (by decide)

theorem nodup_handlerNames (family : Family) (pascal : Text) : (family.handlerNames pascal).Nodup := by
  have hget := getAll_ne_getById pascal
  cases family <;> simpa [handlerNames] using hget

theorem notMem_handlerName {c : Char} (hc : c = ' ' ∨ c = '\n') (hpascal : c ∉ pascal)
    (h : name ∈ family.handlerNames pascal) : c ∉ name := by
  rcases hc with rfl | rfl
  · cases family <;> revert name <;> simp [handlerNames, hpascal]
  · cases family <;> revert name <;> simp [handlerNames, hpascal]

theorem isLower_handlerName (h : name ∈ family.handlerNames pascal) :
    name.head?.any Char.isLower = true := by
  cases family <;> revert name <;> simp [handlerNames]

/-- The names of the endpoints of a family, filled, are the names of its handlers. -/
theorem filled_name (family : Family) (value : Slot → Text) :
    (family.handlers.map fun e => e.name.filled value) = family.handlerNames (value .modelPascal) := by
  cases family <;>
    simp only [handlers, handlerNames, Boilerplate.plainEndpoints, Boilerplate.uploadEndpoints,
      Boilerplate.userEndpoints, Boilerplate.create, Boilerplate.getAll, Boilerplate.getById,
      Boilerplate.update, Boilerplate.delete, Boilerplate.createUpload, Boilerplate.deleteUpload,
      Boilerplate.register, Boilerplate.login, Text.ofString_eq_toList, List.map_cons, List.map_nil,
      Template.filled_text, Template.filled_slot, Template.filled_nil, List.append_nil, List.append_assoc]

end Family

/-! ## Lists of names -/

/-- The names that words list up to a closing brace, with a comma after each name but the last. -/
def listedNames? : List Text → Option (List Text)
  | [] => none
  | word :: words =>
    if words.head? = some ['\x7d'] then some [word]
    else if word.getLast? = some ',' then (listedNames? words).map (word.dropLast :: ·)
    else none

/-- The names that a line lists between braces after a word. -/
def namesAfter? (keyword line : Text) : Option (List Text) :=
  match Text.splitOn ' ' line with
  | first :: brace :: words =>
    if first = keyword ∧ brace = ['\x7b'] then listedNames? words else none
  | _ => none

/-- The names that the lines of a text export. -/
def exportedNames (content : Text) : List Text :=
  ((Text.splitOn '\n' content).filterMap (namesAfter? "export")).flatten

/-- The names that the lines of a text import from a path. -/
def importedNames (path content : Text) : List Text := (readImports (namesAfter? "import") path content).flatten

/-- The handler that a line mounts on a router: the last of the arguments. -/
def mounted? (line : Text) : Option Text :=
  if ("router." : Text).isPrefixOf line then
    (Text.splitOn ' ' line).getLast?.bind fun word =>
      if word.getLast? = some ')' then some word.dropLast else none
  else none

/-- The handlers that the lines of a text mount. -/
def mountedNames (content : Text) : List Text := (Text.splitOn '\n' content).filterMap mounted?

section

variable {keyword tail last path line : Text} {names words : List Text}

/-- The words of a list of names that ends before a brace. -/
theorem splitOn_intercalate (hname : ∀ name ∈ names, ' ' ∉ name) (hne : names ≠ [])
    (htail : Text.splitOn ' ' tail = ['\x7d'] :: words) :
    Text.splitOn ' ' ((", " : Text).intercalate names ++ ' ' :: tail) =
      (names.dropLast.map (· ++ [','])) ++ names.getLast hne :: ['\x7d'] :: words := by
  induction names with
  | nil => exact absurd rfl hne
  | cons name names ih =>
    rw [List.forall_mem_cons] at hname
    cases names with
    | nil =>
      rw [List.intercalate_singleton, Text.splitOn_append, Text.splitOn_of_notMem ' ' name hname.1, htail]
      rfl
    | cons next later =>
      have hcomma : ' ' ∉ name ++ [','] := by simp [hname.1]
      have hsplit : (", " : Text).intercalate (name :: next :: later) ++ ' ' :: tail =
          (name ++ [',']) ++ ' ' :: ((", " : Text).intercalate (next :: later) ++ ' ' :: tail) := by
        rw [List.intercalate_cons_cons]
        simp
      rw [hsplit, Text.splitOn_append, Text.splitOn_of_notMem ' ' _ hcomma, ih hname.2 (by simp)]
      rfl

theorem listedNames?_eq_some (hlast : last ≠ ['\x7d']) (before words : List Text) :
    listedNames? (before.map (· ++ [',']) ++ last :: ['\x7d'] :: words) = some (before ++ [last]) := by
  induction before with
  | nil => rfl
  | cons name before ih =>
    have hnext : (before.map (· ++ [',']) ++ last :: ['\x7d'] :: words).head? ≠ some ['\x7d'] := by
      cases before with
      | nil => simpa using hlast
      | cons next later => simp [List.append_eq_singleton_iff]
    rw [List.map_cons, List.cons_append, listedNames?, if_neg hnext, ih]
    simp

/-- A list of names between braces is read as it was written. -/
theorem namesAfter?_eq_some (hkeyword : ' ' ∉ keyword) (hne : names ≠ []) (hspace : ∀ name ∈ names, ' ' ∉ name)
    (hbrace : ['\x7d'] ∉ names) (htail : Text.splitOn ' ' tail = ['\x7d'] :: words) :
    namesAfter? keyword
      (keyword ++ ' ' :: (['\x7b'] ++ ' ' :: ((", " : Text).intercalate names ++ ' ' :: tail))) =
        some names := by
  have hlast : names.getLast hne ≠ ['\x7d'] := fun h => hbrace (h ▸ List.getLast_mem hne)
  have hwords : Text.splitOn ' '
      (keyword ++ ' ' :: (['\x7b'] ++ ' ' :: ((", " : Text).intercalate names ++ ' ' :: tail))) =
        keyword :: ['\x7b'] ::
          (names.dropLast.map (· ++ [',']) ++ names.getLast hne :: ['\x7d'] :: words) := by
    rw [Text.splitOn_append, Text.splitOn_of_notMem ' ' keyword hkeyword, Text.splitOn_append,
      splitOn_intercalate hspace hne htail]
    rfl
  rw [namesAfter?, hwords]
  simp only [true_and, if_true, listedNames?_eq_some hlast, List.dropLast_append_getLast]

theorem prefix_of_namesAfter? (h : (namesAfter? keyword line).isSome) : keyword <+: line := by
  unfold namesAfter? at h
  split at h
  · next first brace words hwords =>
    split at h
    · next hfirst =>
      rw [← Text.intercalate_splitOn ' ' line, hwords, List.intercalate_cons_cons, hfirst.1, List.append_assoc]
      exact List.prefix_append _ _
    · simp at h
  · simp at h

theorem mounted?_eq_some {name : Text} (hname : ' ' ∉ name) (what : Text) :
    mounted? (("router." : Text) ++ what ++ ' ' :: (name ++ [')'])) = some name := by
  have hword : Text.splitOn ' ' (name ++ [')']) = [name ++ [')']] :=
    Text.splitOn_of_notMem ' ' _ (by simp [hname])
  have hstart : ("router." : Text).isPrefixOf (("router." : Text) ++ what ++ ' ' :: (name ++ [')'])) = true := by
    rw [List.isPrefixOf_iff_prefix, List.append_assoc]
    exact List.prefix_append _ _
  rw [mounted?, if_pos hstart, Text.splitOn_append, hword, List.getLast?_concat, Option.bind_some,
    List.getLast?_concat, if_pos rfl, List.dropLast_concat]

theorem prefix_of_mounted? (h : (mounted? line).isSome) : ("router." : Text) <+: line := by
  rw [mounted?] at h
  split at h
  · next hstart => exact List.isPrefixOf_iff_prefix.1 hstart
  · simp at h

end

/-! ## Declarations -/

/-- How the declaration of a handler begins. -/
def handlerOpening (name : Text) : Text := ("const " : Text) ++ name ++ (" = async" : Text)

theorem handlerOpening_eq (name : Text) :
    handlerOpening name = ("const" : Text) ++ ' ' :: (name ++ ' ' :: (['='] ++ ' ' :: ("async" : Text))) := by
  have hconst : ("const " : Text) = ("const" : Text) ++ [' '] := rfl
  have hasync : (" = async" : Text) = ' ' :: (['='] ++ ' ' :: ("async" : Text)) := rfl
  have hparts := congrArg₂ (fun start sign : Text => start ++ name ++ sign) hconst hasync
  refine hparts.trans ?_
  simp only [List.append_assoc, List.cons_append, List.nil_append]

section

variable {name other : Text}

/-- The line that declares a handler declares no other one. -/
theorem occurrences_handlerOpening (hname : ' ' ∉ name) (hlower : name.head?.any Char.isLower = true)
    (hother : ' ' ∉ other) {arrow : Text} (harrow : 'o' ∉ arrow) :
    Text.occurrences (handlerOpening name) (handlerOpening other ++ arrow) = if name = other then 1 else 0 := by
  have hequals : name ≠ ['='] := by
    rintro rfl
    exact absurd hlower (by decide)
  have hwords : handlerOpening other ++ arrow = ("const" : Text) ++ ' ' ::
      (other ++ ' ' :: (['='] ++ ' ' :: (("async" : Text) ++ arrow))) := by
    rw [handlerOpening_eq]
    simp only [List.append_assoc, List.cons_append]
  rw [hwords, handlerOpening_eq]
  exact Text.occurrences_phrase (by decide) hname hother (by decide) hequals
    (by decide : 'o' ∈ ("const" : Text)) (by simp [harrow])

end

namespace Template

/-- Whether words begin as the name of a handler, an equals sign and a function do. -/
def beginsDeclaration : List Template → Bool
  | name :: sign :: function :: _ =>
    name.opening.head?.all Char.isLower && sign.mayBegin ['='] && function.mayBegin "async"
  | _ => false

/-- Whether a line may declare a handler, for all that is known before it is filled. -/
def mayDeclare (line : Template) : Bool := (line.pieces ' ').tails.any beginsDeclaration

section

variable {value : Slot → Text} {slots : List Slot} {t line : Template} {name : Text}

/-- Words that become the declaration of a handler are seen to begin one. -/
theorem beginsDeclaration_of_filled {first sign function : Template} {more : Text} (back : List Template)
    (hlower : name.head?.any Char.isLower = true) (hfirst : first.filled value = name)
    (hsign : sign.filled value = ['=']) (hfunction : function.filled value = ("async" : Text) ++ more) :
    beginsDeclaration (first :: sign :: function :: back) = true := by
  have hletter : first.opening.head?.all Char.isLower = true := by
    cases hopening : first.opening with
    | nil => rfl
    | cons c s =>
      have hstarts : first.opening <+: first.filled value := first.opening_isPrefix
      rw [hopening, hfirst] at hstarts
      obtain ⟨rest, rfl⟩ := hstarts
      exact hlower
  have hequals : sign.mayBegin ['='] = true := by
    have hstarts : ['='] <+: sign.filled value := by rw [hsign]
    exact mayBegin_of_isPrefix hstarts
  have hkeyword : function.mayBegin "async" = true := by
    have hstarts : ("async" : Text) <+: function.filled value := by
      rw [hfunction]
      exact List.prefix_append _ _
    exact mayBegin_of_isPrefix hstarts
  rw [beginsDeclaration, hletter, hequals, hkeyword]
  rfl

/-- A line that is not seen to declare a handler does not declare one. -/
theorem occurrences_filled_eq_zero (hline : line.uses slots = true) (hvalue : ∀ slot ∈ slots, ' ' ∉ value slot)
    (hname : ' ' ∉ name) (hlower : name.head?.any Char.isLower = true) (h : line.mayDeclare = false) :
    Text.occurrences (handlerOpening name) (line.filled value) = 0 := by
  by_contra hoccurs
  obtain ⟨before, after, hsplit⟩ := Text.infix_of_occurrences hoccurs
  have hasync : ' ' ∉ ("async" : Text) := by decide
  rw [handlerOpening_eq] at hsplit
  have hwords : Text.splitOn ' ' (line.filled value) = Text.splitOn ' ' (before ++ ("const" : Text)) ++
      name :: ['='] :: Text.splitOn ' ' (("async" : Text) ++ after) := by
    have hcontent : line.filled value = (before ++ ("const" : Text)) ++ ' ' ::
        (name ++ ' ' :: (['='] ++ ' ' :: (("async" : Text) ++ after))) := by
      rw [← hsplit]
      simp only [List.append_assoc, List.cons_append]
    rw [hcontent, Text.splitOn_append, Text.splitOn_append, Text.splitOn_append,
      Text.splitOn_of_notMem ' ' name hname]
    rfl
  rw [splitOn_filled hline hvalue, List.map_eq_append_iff] at hwords
  obtain ⟨front, back, hpieces, -, hback⟩ := hwords
  obtain ⟨first, back, rfl, hfirst, hback⟩ := List.map_eq_cons_iff.1 hback
  obtain ⟨sign, back, rfl, hsign, hback⟩ := List.map_eq_cons_iff.1 hback
  rw [Text.splitOn_append_of_notMem ' ' _ _ hasync] at hback
  obtain ⟨function, back, rfl, hfunction, -⟩ := List.map_eq_cons_iff.1 hback
  have hbegins := beginsDeclaration_of_filled back hlower hfirst hsign hfunction
  have hdeclares : line.mayDeclare = true := by
    rw [mayDeclare, List.any_eq_true]
    exact ⟨_, (List.mem_tails _ _).2 ⟨front, hpieces.symm⟩, hbegins⟩
  simp [hdeclares] at h

/-- A part of one line stands in a filled template as often as in the lines that may hold it. -/
theorem occurrences_filled {part : Text} {p : Template → Bool} (ht : t.uses slots = true)
    (hvalue : ∀ slot ∈ slots, '\n' ∉ value slot) (hpart : '\n' ∉ part) (hne : part ≠ [])
    (hp : ∀ line ∈ t.lines, p line = false → Text.occurrences part (line.filled value) = 0) :
    Text.occurrences part (t.filled value) =
      ((t.lines.filter p).map fun line => Text.occurrences part (line.filled value)).sum := by
  rw [Text.occurrences_eq_sum hpart hne, splitOn_filled_newline ht hvalue, List.map_map]
  exact Text.sum_map_filter hp

end

theorem filled_intercalate (value : Slot → Text) (sep : Template) (ts : List Template) :
    filled value (List.intercalate sep ts) = List.intercalate (filled value sep) (ts.map (filled value)) := by
  induction ts with
  | nil => rfl
  | cons t ts ih =>
    cases ts with
    | nil => rw [List.intercalate_singleton, List.map_singleton, List.intercalate_singleton]
    | cons next later =>
      rw [List.intercalate_cons_cons, filled_append, filled_append, ih]
      simp only [List.map_cons, List.intercalate_cons_cons]

end Template

/-! ## Handlers of the boilerplate -/

namespace Boilerplate.Endpoint

/-- The line that begins the declaration of a handler. -/
def declarationLine (e : Endpoint) : Template :=
  List.flatten [["const "], e.name, [" = async", .text e.arrow, "\x7b"]]

variable {value : Slot → Text} {e : Endpoint}

theorem filled_declarationLine (value : Slot → Text) (e : Endpoint) :
    e.declarationLine.filled value = handlerOpening (e.name.filled value) ++ (e.arrow ++ ("\x7b" : Text)) := by
  show _ = ("const " : Text) ++ e.name.filled value ++ (" = async" : Text) ++ (e.arrow ++ ("\x7b" : Text))
  simp only [declarationLine, List.flatten_cons, List.flatten_nil, Template.filled_append,
    Template.filled_text, Template.filled_nil, Text.ofString_eq_toList, List.append_assoc, List.append_nil]

/-- What the boilerplate of an endpoint declares and exports. -/
theorem declaration_lines (h : e ∈ allEndpoints) :
    e.declaration.lines.filter Template.mayDeclare = [e.declarationLine.spelled] ∧
      e.declaration.lines.filter (Template.mayBegin "export") = [] ∧ 'o' ∉ e.arrow := by
  revert e
  decide +kernel

/-- The last argument of a line that mounts a handler comes after a space. -/
theorem getLast?_before (h : e ∈ allEndpoints) : (("', " : Text) ++ e.before).getLast? = some ' ' := by
  revert e
  decide +kernel

theorem mounted?_mount (h : e ∈ allEndpoints) (hname : ' ' ∉ e.name.filled value) :
    mounted? (Template.filled value e.mount) = some (e.name.filled value) := by
  obtain ⟨what, hwhat⟩ := List.getLast?_eq_some_iff.1 (getLast?_before h)
  have hmount : Template.filled value e.mount = ("router." : Text) ++ (e.verb ++ ("('" : Text) ++ e.path) ++
      (("', " : Text) ++ e.before ++ (e.name.filled value ++ [')'])) := by
    have hparen : (")" : Text) = [')'] := rfl
    rw [← hparen]
    simp only [mount, List.flatten_cons, List.flatten_nil, Template.filled_append, Template.filled_text,
      Template.filled_nil, Text.ofString_eq_toList, List.append_assoc, List.append_nil]
  have hline : Template.filled value e.mount = ("router." : Text) ++
      (e.verb ++ ("('" : Text) ++ e.path ++ what) ++ ' ' :: (e.name.filled value ++ [')']) := by
    rw [hmount, hwhat]
    simp only [List.append_assoc, List.singleton_append]
  rw [hline, mounted?_eq_some hname]

/-- A list of names between braces, word by word. -/
theorem filled_nameList (value : Slot → Text) (endpoints : List Endpoint) :
    Template.filled value (nameList endpoints) = ['\x7b'] ++ ' ' ::
      ((", " : Text).intercalate (endpoints.map fun e => e.name.filled value) ++ ' ' :: ['\x7d']) := by
  have hopen : Text.ofString "\x7b " = ['\x7b'] ++ [' '] := rfl
  have hclose : Text.ofString " \x7d" = [' ', '\x7d'] := rfl
  have hcomma : Template.filled value [", "] = (", " : Text) := by
    rw [Template.filled_text, Template.filled_nil, Text.ofString_eq_toList, List.append_nil]
  rw [nameList, List.flatten_cons, List.flatten_cons, List.flatten_cons, List.flatten_nil,
    Template.filled_append, Template.filled_append, Template.filled_intercalate, hcomma, List.map_map]
  simp only [Template.filled_text, Template.filled_nil, hopen, hclose, Function.comp_def, List.append_nil,
    List.cons_append, List.nil_append]

end Boilerplate.Endpoint

namespace Family

theorem controllerStart_lines (family : Family) :
    family.controllerStart.lines.filter Template.mayDeclare = [] ∧
      family.controllerStart.lines.filter (Template.mayBegin "export") = [] := by
  cases family <;> decide +kernel

theorem exportLine_lines (family : Family) :
    (Template.ofLines [family.exportLine]).lines.filter Template.mayDeclare = [] ∧
      (Template.ofLines [family.exportLine]).lines.filter (Template.mayBegin "export") =
        [family.exportLine.spelled] := by
  cases family <;> decide +kernel

/-- The lines of a controller that may declare a handler are the first lines of its endpoints. -/
theorem controller_declares (family : Family) :
    (family.boilerplate .controller).lines.filter Template.mayDeclare =
      family.handlers.map fun e => e.declarationLine.spelled := by
  have hendpoints : (family.handlers.flatMap fun e => e.declaration.lines.filter Template.mayDeclare) =
      family.handlers.flatMap fun e => [e.declarationLine.spelled] :=
    List.flatMap_congr fun e he => (Endpoint.declaration_lines (family.handlers_subset he)).1
  rw [family.filter_lines_controller rfl, family.controllerStart_lines.1,
    family.exportLine_lines.1, hendpoints, List.nil_append, List.append_nil, List.map_eq_flatMap]

/-- The only line of a controller that may export names is its last one. -/
theorem controller_exports (family : Family) :
    (family.boilerplate .controller).lines.filter (Template.mayBegin "export") = [family.exportLine.spelled] := by
  rw [family.filter_lines_controller_of_endpoints rfl
      fun e he => (Endpoint.declaration_lines he).2.1, family.controllerStart_lines.2, family.exportLine_lines.2,
    List.nil_append]

/-- The lines of a router that may mount a handler mount those of its endpoints. -/
theorem route_mounts (family : Family) :
    (family.boilerplate .route).lines.filter (Template.mayBegin "router.") =
      family.handlers.map fun e => Template.spelled e.mount := by
  cases family <;> decide +kernel

end Family

/-! ## Routers and controllers -/

/-- What it means that a router and a controller agree on handlers of some names, where a path is that by which
the router imports the controller. -/
structure HandlersAgree (names : List Text) (path route controller : Text) : Prop where
  imported : importedNames path route = names
  exported : exportedNames controller = names
  mounted : mountedNames route = names
  nodup : names.Nodup
  declared : ∀ name ∈ names, Text.occurrences (("const " : Text) ++ name ++ (" = async" : Text)) controller = 1

namespace Resource

variable {name : Text}

/-- The names of the handlers of a resource. -/
def handlerNames (r : Resource) : List Text := r.family.handlerNames (ModelName.pascal r.model)

theorem filled_name (r : Resource) :
    (r.family.handlers.map fun e => e.name.filled r.slotText) = r.handlerNames :=
  r.family.filled_name r.slotText

theorem notMem_handlerName (r : Resource) {c : Char} (hc : c = ' ' ∨ c = '\n') (h : name ∈ r.handlerNames) :
    c ∉ name := by
  have hpascal : c ∉ r.slotText .modelPascal := by
    rcases hc with rfl | rfl
    · exact r.notMem_slotText (by decide) (by decide) _ (by decide)
    · exact r.notMem_slotText (by decide) (by decide) _ (by decide)
  exact Family.notMem_handlerName hc hpascal h

/-- A list of the names of the handlers between braces is read as it was written. -/
theorem namesAfter?_handlerNames (r : Resource) {keyword tail : Text} {words : List Text}
    (hkeyword : ' ' ∉ keyword) (htail : Text.splitOn ' ' tail = ['\x7d'] :: words) :
    namesAfter? keyword (keyword ++ ' ' ::
      (['\x7b'] ++ ' ' :: ((", " : Text).intercalate r.handlerNames ++ ' ' :: tail))) = some r.handlerNames := by
  have hspace : ∀ name ∈ r.handlerNames, ' ' ∉ name := fun name => r.notMem_handlerName (Or.inl rfl)
  have hbrace : ['\x7d'] ∉ r.handlerNames := fun hmem =>
    absurd (Family.isLower_handlerName hmem) (by decide)
  exact namesAfter?_eq_some hkeyword (r.family.handlerNames_ne_nil _) hspace hbrace htail

theorem exportedNames_eq (r : Resource) : exportedNames (r.planned .controller).content = r.handlerNames := by
  have hline : namesAfter? "export" (r.family.exportLine.spelled.filled r.slotText) = some r.handlerNames := by
    have hopen : Text.ofString "export " = ("export" : Text) ++ [' '] := rfl
    rw [Template.filled_spelled, Family.exportLine, Template.filled_text, Endpoint.filled_nameList,
      filled_name, hopen, List.append_assoc, List.singleton_append]
    exact r.namesAfter?_handlerNames (by decide) rfl
  have huses := (r.family.boilerplate_imports (Or.inl rfl)).1
  rw [exportedNames, planned, Template.splitOn_filled_newline huses r.newline_notMem_slotText,
    Template.filterMap_filled fun _ _ => Template.eq_none_of_not_mayBegin fun _ => prefix_of_namesAfter?,
    Family.controller_exports, List.filterMap_cons, hline, List.filterMap_nil]
  exact List.append_nil _

theorem mountedNames_eq (r : Resource) : mountedNames (r.planned .route).content = r.handlerNames := by
  have huses := (r.family.boilerplate_imports (Or.inr rfl)).1
  rw [mountedNames, planned, Template.splitOn_filled_newline huses r.newline_notMem_slotText,
    Template.filterMap_filled fun _ _ => Template.eq_none_of_not_mayBegin fun _ => prefix_of_mounted?,
    Family.route_mounts, List.filterMap_map, ← filled_name]
  refine List.filterMap_eq_map_iff_forall_eq_some.2 fun e he => ?_
  have hname : e.name.filled r.slotText ∈ r.handlerNames := r.filled_name ▸ List.mem_map_of_mem he
  rw [Function.comp_apply, Template.filled_spelled]
  exact Endpoint.mounted?_mount (r.family.handlers_subset he) (r.notMem_handlerName (Or.inl rfl) hname)

/-- The line that imports the controller names the handlers. -/
theorem namesAfter?_importLine (r : Resource) :
    namesAfter? "import" ((r.family.importLine .controller).filled r.slotText) = some r.handlerNames := by
  have hfrom : (" from" : Text) = ' ' :: ("from" : Text) := rfl
  have hline : (r.family.importLine .controller).filled r.slotText = ("import" : Text) ++ ' ' ::
      (['\x7b'] ++ ' ' :: ((", " : Text).intercalate r.handlerNames ++ ' ' :: (['\x7d'] ++ ' ' ::
        (("from" : Text) ++ ' ' :: '"' :: (r.importPath .controller ++ ['"']))))) := by
    rw [filled_importLine, Family.importedNames_controller, Endpoint.filled_nameList, filled_name, hfrom]
    simp only [List.append_assoc, List.cons_append, List.nil_append]
  rw [hline]
  exact r.namesAfter?_handlerNames (by decide) (Text.splitOn_append ' ' _ _)

theorem importedNames_eq (r : Resource) :
    importedNames (r.importPath .controller) (r.planned .route).content = r.handlerNames := by
  have hmem : Artifact.controller ∈ r.family.importedBy .route := List.mem_cons_self
  rw [importedNames, r.readImports_eq (Or.inr rfl) hmem r.namesAfter?_importLine]
  exact List.append_nil _

theorem sum_map_ite_eq_count (names : List Text) (name : Text) :
    (names.map fun other => if name = other then 1 else 0).sum = names.count name := by
  induction names with
  | nil => rfl
  | cons other names ih =>
    rw [List.map_cons, List.sum_cons, ih, List.count_cons, Nat.add_comm]
    by_cases h : name = other
    · simp [h]
    · simp [h, Ne.symm h]

/-- Each handler is declared once. -/
theorem occurrences_eq_one (r : Resource) (h : name ∈ r.handlerNames) :
    Text.occurrences (handlerOpening name) (r.planned .controller).content = 1 := by
  have huses := (r.family.boilerplate_imports (Or.inl rfl)).1
  have hspace : ' ' ∉ name := r.notMem_handlerName (Or.inl rfl) h
  have hlower : name.head?.any Char.isLower = true := Family.isLower_handlerName h
  have hpart : '\n' ∉ handlerOpening name := by
    have hname : '\n' ∉ name := r.notMem_handlerName (Or.inr rfl) h
    rw [handlerOpening_eq]
    simp [hname]
  have hdeclared : ∀ e ∈ r.family.handlers,
      Text.occurrences (handlerOpening name) (e.declarationLine.spelled.filled r.slotText) =
        if name = e.name.filled r.slotText then 1 else 0 := by
    intro e he
    have hother : e.name.filled r.slotText ∈ r.handlerNames := r.filled_name ▸ List.mem_map_of_mem he
    have harrow := (Endpoint.declaration_lines (r.family.handlers_subset he)).2.2
    rw [Template.filled_spelled, Endpoint.filled_declarationLine]
    exact occurrences_handlerOpening hspace hlower (r.notMem_handlerName (Or.inl rfl) hother) (by simp [harrow])
  rw [planned, Template.occurrences_filled huses r.newline_notMem_slotText hpart (by simp [handlerOpening_eq])
    fun line hline => Template.occurrences_filled_eq_zero (Template.uses_of_mem_lines huses line hline)
      (r.notMem_slotText (by decide) (by decide)) hspace hlower, Family.controller_declares, List.map_map]
  calc (r.family.handlers.map _).sum
      = (r.family.handlers.map fun e => if name = e.name.filled r.slotText then 1 else 0).sum :=
        congrArg List.sum (List.map_congr_left hdeclared)
    _ = (r.handlerNames.map fun other => if name = other then 1 else 0).sum := by
        rw [← filled_name, List.map_map]
        rfl
    _ = r.handlerNames.count name := sum_map_ite_eq_count r.handlerNames name
    _ = 1 := List.count_eq_one_of_mem (r.family.nodup_handlerNames _) h

/-- **Handlers.** The router of a resource imports from its controller all that the controller exports, and
mounts it; the names are different from each other, and the controller declares each of them once. -/
theorem exists_handlersAgree (r : Resource) :
    ∃ files controller route, r.plan = .ok files ∧
      files.filter (fun file => file.artifact = .controller) = [controller] ∧
      files.filter (fun file => file.artifact = .route) = [route] ∧
      HandlersAgree r.handlerNames (r.importPath .controller) route.content controller.content := by
  refine ⟨_, r.planned .controller, r.planned .route, r.plan_eq, r.filter_planned (Or.inl rfl),
    r.filter_planned (Or.inr rfl), ?_⟩
  exact {
    imported := r.importedNames_eq
    exported := r.exportedNames_eq
    mounted := r.mountedNames_eq
    nodup := r.family.nodup_handlerNames _
    declared := fun _ => r.occurrences_eq_one }

end Resource

end CrudScaffold
