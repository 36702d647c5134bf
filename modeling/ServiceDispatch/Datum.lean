import ServiceDispatch.Keyed

/-!
# Data

Values of any structure, as configuration files, environment variables and stored records hold them.
-/

namespace ServiceDispatch

/-- A piece of data. -/
inductive Datum where
  /-- Nothing. -/
  | null
  /-- A truth value. -/
  | flag (b : Bool)
  /-- A whole number. -/
  | integer (n : Int)
  /-- A number that is not given as a whole one; which number it is plays no part. -/
  | fractional
  /-- A text. -/
  | text (s : String)
  /-- A sequence. -/
  | list (items : List Datum)
  /-- Named entries, in order. -/
  | table (entries : List (String × Datum))
  deriving Repr

namespace Datum

instance : Inhabited Datum := ⟨null⟩

/-- The entry of a name, which is the last one if several have the name. -/
def lookup? (name : String) (entries : List (String × Datum)) : Option Datum :=
  (entries.reverse.find? fun entry => entry.1 = name).map Prod.snd

/-- An entry of a table. -/
def field? (name : String) : Datum → Option Datum
  | table entries => lookup? name entries
  | _ => none

/-- A text. -/
def text? : Datum → Option String
  | text s => some s
  | _ => none

/-- A truth value. -/
def flag? : Datum → Option Bool
  | flag b => some b
  | _ => none

/-- A whole number. -/
def integer? : Datum → Option Int
  | integer n => some n
  | _ => none

/-- The items of a sequence. -/
def items? : Datum → Option (List Datum)
  | list items => some items
  | _ => none

/-- A datum that may be absent: nothing stands for absence. -/
def ofOption {α : Type} (encode : α → Datum) : Option α → Datum
  | none => null
  | some value => encode value

/-- Reads a datum that may be absent. -/
def option? {α : Type} (decode : Datum → Option α) : Datum → Option (Option α)
  | null => some none
  | other => (decode other).map some

/-- A natural number below a bound. -/
def nat? (bound : Nat) (datum : Datum) : Option Nat := do
  let n ← datum.integer?
  if 0 ≤ n && n.toNat < bound then some n.toNat else none

/-- The first natural number that does not fit in 64 bits. -/
def wordBound : Nat := 0x10000000000000000

/-- Reads every item of a sequence. -/
def each? {α : Type} (decode : Datum → Option α) (datum : Datum) : Option (List α) := do
  (← datum.items?).mapM decode

/-- The entries of a record with the given fields: a table names them, a sequence lists them in
order and may end early. Whether it may also go on after the last field is up to the reader. -/
def record? (surplus : Bool) (fields : List String) : Datum → Option (List (String × Datum))
  | table entries => some entries
  | list items =>
    if surplus || items.length ≤ fields.length then some (fields.zip items) else none
  | _ => none

/-- Reads a field of a record, which has a default where it is absent. -/
def fieldOr {α : Type} (decode : Datum → Option α) (default : α) (name : String)
    (entries : List (String × Datum)) : Option α :=
  match lookup? name entries with
  | none => some default
  | some found => decode found

mutual

/-- Lays data over other data: entries of tables are laid over each other one by one, anything else
takes the place of what was there. -/
def overlay : (top under : Datum) → Datum
  | table entries, under => .table (overlayEntries entries (match under with
    | table former => former
    | _ => []))
  | top, _ => top

/-- Lays entries over the entries of a table, one after the other. -/
def overlayEntries : (top under : List (String × Datum)) → List (String × Datum)
  | [], under => under
  | (name, top) :: rest, under =>
    overlayEntries rest (Keyed.put name (overlay top ((lookup? name under).getD null)) under)

end

/-- Data with one entry, which a path of names leads to. -/
def nest : (path : List String) → Datum → Datum
  | [], datum => datum
  | name :: path, datum => table [(name, nest path datum)]

end Datum

end ServiceDispatch
