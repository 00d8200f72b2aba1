import CrudScaffold.Decimal.Binary64

set_option autoImplicit false

/-! # TOML documents

The values of a TOML document and the rules by which its lines build up tables: a table is opened
by one header only, a key is given once, and what was written as one value stays closed. -/

namespace CrudScaffold

/-- A value of a TOML document. Dates and times are told apart from other values only. -/
inductive Toml where
  | text (value : Text)
  | integer (value : Int)
  | real (value : Binary64)
  | bool (value : Bool)
  | date
  | array (items : List Toml)
  | table (entries : List (Text × Toml))

namespace Toml

/-- How a table came into being, which decides who may add to it. -/
inductive TableKind where
  /-- By a header of its own, or as the table of the whole document. -/
  | header
  /-- By the header of a table inside it. -/
  | implied
  /-- By a dotted key. -/
  | dotted
  deriving DecidableEq, Repr

/-- What stands under a key while a document is being read. -/
inductive Item where
  /-- A value that is complete. -/
  | closed (value : Toml)
  /-- A table that may still grow. -/
  | table (kind : TableKind) (entries : List (Text × Item))
  /-- Tables under one key, each with a header of its own. The last one may still grow. -/
  | tables (items : List (List (Text × Item)))

/-- The entries of a table that may still grow. -/
abbrev Entries := List (Text × Item)

/-- Give a key that is present a new item. -/
def setEntry (key : Text) (item : Item) (entries : Entries) : Entries :=
  entries.map fun e => if e.1 = key then (key, item) else e

/-- Change the table at the end of a path of keys; the tables on the way are made if there are
none. A dotted key does not enter a table that has a header of its own. -/
def descend (viaDots : Bool) (change : TableKind → Entries → Option Entries) :
    List Text → TableKind → Entries → Option Entries
  | [], kind, entries => change kind entries
  | key :: keys, _, entries =>
    match entries.lookup key with
    | none =>
      let kind := if viaDots then TableKind.dotted else .implied
      (descend viaDots change keys kind []).map fun sub => entries ++ [(key, .table kind sub)]
    | some (.closed _) => none
    | some (.table kind sub) =>
      if viaDots ∧ kind = .header then none
      else (descend viaDots change keys kind sub).map fun sub =>
        setEntry key (.table kind sub) entries
    | some (.tables items) =>
      match items.getLast? with
      | none => none
      | some last => (descend viaDots change keys .header last).map fun last =>
        setEntry key (.tables (items.dropLast ++ [last])) entries

/-- Give a dotted key a value in a table. The last table on the way must be one that dotted keys
have made, if there is a way, and the key must be new. -/
def insert (path : List Text) (key : Text) (value : Toml) (kind : TableKind) (entries : Entries) :
    Option Entries :=
  let add (kind : TableKind) (entries : Entries) : Option Entries :=
    if (kind = .dotted) ↔ path = [] then none
    else if (entries.lookup key).isSome then none
    else some (entries ++ [(key, .closed value)])
  descend true add path kind entries

/-- Open the table of a header. -/
def openTable (path : List Text) (key : Text) (entries : Entries) : Option Entries :=
  let add (_ : TableKind) (entries : Entries) : Option Entries :=
    match entries.lookup key with
    | none => some (entries ++ [(key, .table .header [])])
    | some (.table .implied sub) => some (setEntry key (.table .header sub) entries)
    | some _ => none
  descend false add path .header entries

/-- Open a new table of the header of an array of tables. -/
def openElement (path : List Text) (key : Text) (entries : Entries) : Option Entries :=
  let add (_ : TableKind) (entries : Entries) : Option Entries :=
    match entries.lookup key with
    | none => some (entries ++ [(key, .tables [[]])])
    | some (.tables items) => some (setEntry key (.tables (items ++ [[]])) entries)
    | some _ => none
  descend false add path .header entries

mutual

/-- The value of an item when nothing can be added any more. -/
def Item.close : Item → Toml
  | .closed value => value
  | .table _ entries => .table (closeEntries entries)
  | .tables items => .array (closeTables items)

/-- The values of some entries. -/
def closeEntries : List (Text × Item) → List (Text × Toml)
  | [] => []
  | (key, item) :: entries => (key, item.close) :: closeEntries entries

/-- The values of some tables. -/
def closeTables : List (List (Text × Item)) → List Toml
  | [] => []
  | entries :: items => .table (closeEntries entries) :: closeTables items

end

/-- A line of a document that says something. A dotted key is its path and its last part. -/
inductive Line where
  | entry (path : List Text) (key : Text) (value : Toml)
  | header (path : List Text) (key : Text)
  | element (path : List Text) (key : Text)

/-- Take in the lines of a document, given the table that the last header opened. -/
def build : (current : List Text) → Entries → List Line → Option Entries
  | _, entries, [] => some entries
  | current, entries, .entry path key value :: lines =>
    match descend false (insert path key value) current .header entries with
    | none => none
    | some entries => build current entries lines
  | _, entries, .header path key :: lines =>
    match openTable path key entries with
    | none => none
    | some entries => build (path ++ [key]) entries lines
  | _, entries, .element path key :: lines =>
    match openElement path key entries with
    | none => none
    | some entries => build (path ++ [key]) entries lines

/-- The entries of the document that some lines make up. -/
def ofLines? (lines : List Line) : Option (List (Text × Toml)) :=
  (build [] [] lines).map closeEntries

/-- The table that the entries between two braces make up. -/
def ofInline? : Entries → List (List Text × Text × Toml) → Option Toml
  | entries, [] => some (.table (closeEntries entries))
  | entries, (path, key, value) :: rest =>
    match insert path key value .header entries with
    | none => none
    | some entries => ofInline? entries rest

end Toml

end CrudScaffold
