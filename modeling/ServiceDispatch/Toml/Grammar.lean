import ServiceDispatch.Toml.Scalar
import ServiceDispatch.Toml.Table

/-!
# Grammar of TOML documents

Keys, values and statements, and the data of a whole document. Lists may go over several lines and
end with a comma; tables among values stand on one line and may not. Neither a path nor a nest of
lists and tables may go deeper than a fixed number of levels. The fuel of a reader bounds how many
things follow each other, which the number of characters does.
-/

namespace ServiceDispatch.Toml

/-- Drops spaces and tabs. -/
def afterGap (text : List Char) : List Char := text.dropWhile isGap

/-- Past a comment, as far as the end of its line; none that holds a control character. -/
def comment? : List Char → Option (List Char)
  | [] => some []
  | c :: rest =>
    if (lineEnd? (c :: rest)).isSome then some (c :: rest)
    else if isPlain c then comment? rest
    else none

/-- Past spaces, line ends and comments. -/
def afterSpace? : (fuel : Nat) → List Char → Option (List Char)
  | 0, _ => none
  | fuel + 1, text =>
    match afterBlank text with
    | '#' :: rest => (comment? rest).bind (afterSpace? fuel)
    | rest => some rest

/-- Past the rest of a line that holds nothing but a comment. -/
def lineRest? (text : List Char) : Option (List Char) := do
  let rest ←
    match afterGap text with
    | '#' :: rest => comment? rest
    | rest => some rest
  match rest with
  | [] => some []
  | _ => lineEnd? rest

/-- How many keys a path may have, and how many lists and tables may lie in each other. -/
def depthBound : Nat := 79

/-- Whether a character may stand in a key without quotes. -/
def isBare (c : Char) : Bool := c.isAlphanum || c = '_' || c = '-'

/-- Reads a key. -/
def key? (text : List Char) : Option (String × List Char) :=
  match text with
  | '"' :: _ => line? text
  | '\'' :: _ => line? text
  | _ =>
    match text.takeWhile isBare with
    | [] => none
    | found => some (String.ofList found, text.dropWhile isBare)

/-- Reads keys with dots between them. -/
def keys? : (fuel : Nat) → Reader KeyPath
  | 0, _ => none
  | fuel + 1, text => do
    let (key, rest) ← key? (afterGap text)
    match afterGap rest with
    | '.' :: rest =>
      let (path, rest) ← keys? fuel rest
      return (⟨key :: path.before, path.last⟩, rest)
    | rest => return (⟨[], key⟩, rest)

/-- Reads a path of keys. -/
def path? (text : List Char) : Option (KeyPath × List Char) :=
  (keys? (text.length + 1) text).filter fun found => found.1.keys.length ≤ depthBound

/-- Reads the items of a list, from behind its bracket or a comma. -/
def items? (item? : Reader Datum) : (fuel : Nat) → Reader (List Datum)
  | 0, _ => none
  | fuel + 1, text => do
    match ← afterSpace? (text.length + 1) text with
    | ']' :: rest => return ([], rest)
    | start =>
      let (item, rest) ← item? start
      match ← afterSpace? (rest.length + 1) rest with
      | ',' :: rest =>
        let (more, rest) ← items? item? fuel rest
        return (item :: more, rest)
      | ']' :: rest => return ([item], rest)
      | _ => none

/-- Reads a key and its value. -/
def assignment? (value? : Reader Datum) (text : List Char) :
    Option ((KeyPath × Datum) × List Char) := do
  let (path, rest) ← path? text
  let rest ← afterCharacter? '=' rest
  let (datum, rest) ← value? (afterGap rest)
  return ((path, datum), rest)

/-- Reads the entries of a table among values into it, up to its brace. -/
def inline? (value? : Reader Datum) : (fuel : Nat) → Entries → Reader Entries
  | 0, _, _ => none
  | fuel + 1, entries, text => do
    let ((path, datum), rest) ← assignment? value? text
    let entries ← writeAt path.before path.last datum .defined entries
    match afterGap rest with
    | ',' :: rest => inline? value? fuel entries rest
    | '\x7d' :: rest => return (entries, rest)
    | _ => none

/-- Reads a list from behind its bracket, or a table from behind its brace. -/
def nested? (value? : Reader Datum) (opening : Char) (text : List Char) :
    Option (Datum × List Char) := do
  if opening = '[' then
    let (items, rest) ← items? value? (text.length + 1) text
    return (.list items, rest)
  else
    match afterGap text with
    | '\x7d' :: rest => return (.table [], rest)
    | _ =>
      let (entries, rest) ← inline? value? (text.length + 1) [] text
      return (.table (entriesData entries), rest)

/-- Reads a value in which so many lists and tables may lie in each other. -/
def value? (depth : Nat) : Reader Datum := fun text =>
  match text with
  | [] => none
  | c :: rest =>
    if c = '[' || c = '\x7b' then
      match depth with
      | 0 => none
      | depth + 1 => nested? (value? depth) c rest
    else if c = '"' || c = '\'' then
      (text? text).map fun found => (.text found.1, found.2)
    else scalar? text

/-- Reads a statement. -/
def statement? (text : List Char) : Option (Statement × List Char) := do
  match text with
  | '[' :: '[' :: rest =>
    let (path, rest) ← path? rest
    let rest ← afterCharacter? ']' rest
    let rest ← afterCharacter? ']' rest
    return (.row path, rest)
  | '[' :: rest =>
    let (path, rest) ← path? rest
    return (.header path, ← afterCharacter? ']' rest)
  | _ =>
    let ((path, datum), rest) ← assignment? (value? depthBound) text
    return (.entry path datum, rest)

/-- Reads statements, one a line, up to the end of a document. -/
def statements? : (fuel : Nat) → List Char → Option (List Statement)
  | 0, _ => none
  | fuel + 1, text => do
    match ← afterSpace? (text.length + 1) text with
    | [] => return []
    | start =>
      let (statement, rest) ← statement? start
      return statement :: (← statements? fuel (← lineRest? rest))

/-- The data of a document; a mark of the byte order in front of it is dropped. -/
def read? (document : String) : Option Datum :=
  let text :=
    match document.toList with
    | '\ufeff' :: rest => rest
    | text => text
  (statements? (text.length + 1) text).bind dataOf?

end ServiceDispatch.Toml
