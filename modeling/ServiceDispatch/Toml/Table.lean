import ServiceDispatch.Datum

/-!
# Tables of a TOML document

How the statements of a document build its tables. A table is defined once: a header may define a
table that longer headers implied, but no header and no dotted key adds to a table that another one
defined, and nothing adds to a table that was given as a value.
-/

namespace ServiceDispatch.Toml

/-- How a table came about. -/
inductive TableKind where
  /-- By a header of its own. -/
  | defined
  /-- By a longer header. -/
  | implied
  /-- By a dotted key. -/
  | dotted
  deriving DecidableEq, Repr

/-- What a key stands for while a document is read. -/
inductive Node where
  /-- A value. -/
  | value (datum : Datum)
  /-- A table. -/
  | table (kind : TableKind) (entries : List (String × Node))
  /-- A list of tables that headers add to. -/
  | rows (tables : List (List (String × Node)))

/-- The entries of a table while a document is read. -/
abbrev Entries := List (String × Node)

/-- A change of a table, given how it came about; one that is refused has no result. -/
abbrev Change := TableKind → Entries → Option Entries

/-- Changes the table at the end of a path; tables on the way that do not exist are made. -/
def changeAt (dotted : Bool) (change : Change) : (path : List String) → Change
  | [], kind, entries => change kind entries
  | name :: path, _, entries =>
    match Keyed.lookup name entries with
    | none =>
      let kind : TableKind := if dotted then .dotted else .implied
      (changeAt dotted change path kind []).map fun inner =>
        Keyed.put name (.table kind inner) entries
    | some (.table kind inner) =>
      if dotted && kind = .defined then none
      else
        (changeAt dotted change path kind inner).map fun inner =>
          Keyed.put name (.table kind inner) entries
    | some (.rows tables) =>
      match tables.getLast? with
      | none => none
      | some last =>
        (changeAt dotted change path .defined last).map fun last =>
          Keyed.put name (.rows (tables.dropLast ++ [last])) entries
    | some (.value _) => none

/-- Writes a key into a table, behind a path of dotted keys. The table at the end of a path must
come from dotted keys, and one without a path must not. -/
def writeAt (path : List String) (name : String) (datum : Datum) : Change :=
  changeAt true (fun kind entries =>
    if (kind == .dotted) == path.isEmpty then none
    else
      match Keyed.lookup name entries with
      | none => some (Keyed.put name (.value datum) entries)
      | some _ => none) path

/-- Defines a table by its header. -/
def defineTable (name : String) : Change := fun _ entries =>
  match Keyed.lookup name entries with
  | none => some (Keyed.put name (.table .defined []) entries)
  | some (.table .implied inner) => some (Keyed.put name (.table .defined inner) entries)
  | some _ => none

/-- Adds a table to a list of tables by its header. -/
def addRow (name : String) : Change := fun _ entries =>
  match Keyed.lookup name entries with
  | none => some (Keyed.put name (.rows [[]]) entries)
  | some (.rows tables) => some (Keyed.put name (.rows (tables ++ [[]])) entries)
  | some _ => none

mutual

/-- What a key stands for, as data. -/
def Node.toDatum : Node → Datum
  | .value datum => datum
  | .table _ entries => .table (entriesData entries)
  | .rows tables => .list (rowsData tables)

/-- Entries as data. -/
def entriesData : Entries → List (String × Datum)
  | [] => []
  | (name, node) :: rest => (name, node.toDatum) :: entriesData rest

/-- Tables of a list as data. -/
def rowsData : List Entries → List Datum
  | [] => []
  | entries :: rest => .table (entriesData entries) :: rowsData rest

end

/-- A path with at least one key, as the keys before the last one and the last one. -/
structure KeyPath where
  /-- The keys before the last one. -/
  before : List String
  /-- The last key. -/
  last : String
  deriving DecidableEq, Repr

/-- All keys of a path. -/
def KeyPath.keys (path : KeyPath) : List String := path.before ++ [path.last]

/-- A statement of a document. -/
inductive Statement where
  /-- A value for a key of the current table. -/
  | entry (path : KeyPath) (datum : Datum)
  /-- The header of a table, which becomes the current one. -/
  | header (path : KeyPath)
  /-- The header of a table in a list, which becomes the current one. -/
  | row (path : KeyPath)

/-- A document that is being read. -/
structure Document where
  /-- Entries of the outermost table. -/
  entries : Entries
  /-- The path of the current table. -/
  current : List String

/-- Carries out a statement. -/
def Document.apply (document : Document) : Statement → Option Document
  | .entry path datum =>
    (changeAt false (writeAt path.before path.last datum) document.current .defined
      document.entries).map fun entries => { document with entries }
  | .header path =>
    (changeAt false (defineTable path.last) path.before .defined document.entries).map
      fun entries => ⟨entries, path.keys⟩
  | .row path =>
    (changeAt false (addRow path.last) path.before .defined document.entries).map
      fun entries => ⟨entries, path.keys⟩

/-- The data that statements describe. -/
def dataOf? (statements : List Statement) : Option Datum :=
  (statements.foldlM Document.apply ⟨[], []⟩).map fun document =>
    .table (entriesData document.entries)

end ServiceDispatch.Toml
