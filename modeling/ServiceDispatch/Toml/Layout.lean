import ServiceDispatch.Toml.Text

/-!
# Layout of TOML documents

How tables of plain values are written: each under its header, one entry a line, with an empty line
between tables. A list of two or more texts takes a line for each.
-/

namespace ServiceDispatch.Toml

/-- A value of an entry. -/
inductive Plain where
  /-- A truth value. -/
  | flag (b : Bool)
  /-- A text. -/
  | text (s : String)
  /-- A list of texts. -/
  | texts (items : List String)
  deriving DecidableEq, Repr

/-- The written form of a value. -/
def Plain.write : Plain → String
  | flag true => "true"
  | flag false => "false"
  | text s => writeText s
  | texts [] => "[]"
  | texts [s] => "[" ++ writeText s ++ "]"
  | texts items => "[\n" ++ String.join (items.map fun s => "    " ++ writeText s ++ ",\n") ++ "]"

/-- A table with its header. -/
structure PlainTable where
  /-- The name in the header. -/
  name : String
  /-- Keys with their values. -/
  entries : List (String × Plain)
  deriving DecidableEq, Repr

/-- The written form of a table. -/
def PlainTable.write (table : PlainTable) : String :=
  "[" ++ table.name ++ "]\n" ++
    String.join (table.entries.map fun entry => entry.1 ++ " = " ++ entry.2.write ++ "\n")

/-- The written form of a document. -/
def write (tables : List PlainTable) : String :=
  "\n".intercalate (tables.map PlainTable.write)

end ServiceDispatch.Toml
