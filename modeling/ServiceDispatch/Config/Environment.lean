import ServiceDispatch.Datum
import ServiceDispatch.Toml.Text

/-!
# Settings from environment variables

A variable whose name starts with a given prefix sets the entry that the rest of the name leads to.
Its value is read as a truth value, a number, a quoted text, a list or a table where it is one of
these as a whole, and is a text otherwise.
-/

namespace ServiceDispatch.Environment

/-- White space between the parts of a value. -/
def isSpace (c : Char) : Bool :=
  c = ' ' || c = '\t' || c = '\n' || c = '\x0c' || c = '\r'

/-- Drops white space in front. -/
def afterSpace (text : List Char) : List Char := text.dropWhile isSpace

/-- Whether a character may stand in a word; those that lists and tables are made of may not. -/
def isWordCharacter (c : Char) : Bool :=
  c ≠ ',' && c ≠ '\x7b' && c ≠ '\x7d' && c ≠ '[' && c ≠ ']'

/-- Whether a character may stand in a key without quotes. -/
def isKeyCharacter (c : Char) : Bool := c.isAlphanum || c = '_' || c = '-'

/-- Drops a sign in front. -/
def unsigned : List Char → List Char
  | '+' :: rest => rest
  | '-' :: rest => rest
  | word => word

/-- The number that decimal digits denote; none where there is something else or nothing. -/
def decimal? (word : List Char) : Option Nat :=
  if word.isEmpty || !word.all Char.isDigit then none
  else some (word.foldl (fun value c => value * 10 + (c.toNat - '0'.toNat)) 0)

/-- Whether digits of a number end where its exponent, if there is one, is well-formed. -/
def endsNumber : List Char → Bool
  | [] => true
  | c :: rest =>
    (c = 'e' || c = 'E') && !(unsigned rest).isEmpty && (unsigned rest).all Char.isDigit

/-- Whether a word is a number with a point; digits may be missing on one side of it. -/
def isPointed (word : List Char) : Bool :=
  let body := unsigned word
  let whole := body.takeWhile Char.isDigit
  match body.dropWhile Char.isDigit with
  | '.' :: rest =>
    let part := rest.takeWhile Char.isDigit
    !(whole.isEmpty && part.isEmpty) && endsNumber (rest.dropWhile Char.isDigit)
  | _ => false

/-- A whole number as data, if the word is one that fits in 64 bits. -/
def whole? : List Char → Option Datum
  | '-' :: digits =>
    (decimal? digits).bind fun n => if n ≤ 0x8000000000000000 then some (.integer (-n)) else none
  | word =>
    let digits :=
      match word with
      | '+' :: digits => digits
      | _ => word
    (decimal? digits).bind fun n => if n < Datum.wordBound then some (.integer n) else none

/-- A word as data. -/
def wordDatum (word : String) : Datum :=
  if isPointed word.toList then .fractional
  else (whole? word.toList).getD (.text word)

/-- Reads a text in double quotes, from behind the first one. -/
def quoted? (rest : List Char) : Option (String × List Char) :=
  (Toml.basic? (rest.length + 1) rest).map fun found => (String.ofList found.1, found.2)

/-- Reads a key with the white space around it. -/
def key? (text : List Char) : Option (String × List Char) :=
  match afterSpace text with
  | '"' :: rest => (quoted? rest).map fun found => (found.1, afterSpace found.2)
  | start =>
    match start.takeWhile isKeyCharacter with
    | [] => none
    | found => some (String.ofList found, afterSpace (start.dropWhile isKeyCharacter))

/-- Reads items with commas between them, from behind a bracket or a comma up to the closing
bracket. -/
def sequence? {α : Type} (closing : Char) (item? : Toml.Reader α) :
    (fuel : Nat) → Toml.Reader (List α)
  | 0, _ => none
  | fuel + 1, text =>
    if text.head? = some closing then some ([], text.tail)
    else do
      let (item, rest) ← item? text
      match rest with
      | ',' :: rest =>
        let (more, rest) ← sequence? closing item? fuel rest
        return (item :: more, rest)
      | c :: rest => if c = closing then return ([item], rest) else none
      | [] => none

/-- Reads a key and its value. -/
def assignment? (value? : Toml.Reader Datum) (text : List Char) :
    Option ((String × Datum) × List Char) := do
  let (key, rest) ← key? text
  match rest with
  | '=' :: rest =>
    let (datum, rest) ← value? rest
    return ((key, datum), rest)
  | _ => none

/-- Reads a value with the white space around it. The fuel bounds how deep values lie in each other
and how many follow each other. -/
def value? : (fuel : Nat) → Toml.Reader Datum
  | 0, _ => none
  | fuel + 1, text => do
    let (datum, rest) ←
      match afterSpace text with
      | 't' :: 'r' :: 'u' :: 'e' :: rest => some (.flag true, rest)
      | 'f' :: 'a' :: 'l' :: 's' :: 'e' :: rest => some (.flag false, rest)
      | '\x7b' :: rest =>
        (sequence? '\x7d' (assignment? (value? fuel)) fuel rest).map fun found =>
          (Datum.table found.1, found.2)
      | '[' :: rest =>
        (sequence? ']' (value? fuel) fuel rest).map fun found => (Datum.list found.1, found.2)
      | '"' :: rest => (quoted? rest).map fun found => (Datum.text found.1, found.2)
      | '\'' :: c :: '\'' :: rest => some (.text (String.ofList [c]), rest)
      | '\'' :: _ => none
      | start =>
        some (wordDatum (Text.trim (String.ofList (start.takeWhile isWordCharacter))),
          start.dropWhile isWordCharacter)
    return (datum, afterSpace rest)

/-- The data that a value denotes: what it reads as from end to end, or else its text. -/
def datumOf (value : String) : Datum :=
  match value? (value.length + 1) value.toList with
  | some (datum, []) => datum
  | _ => .text value

/-- What is left of a name after a prefix, whose case is ignored. -/
def afterPrefix? : (beginning name : List Char) → Option (List Char)
  | [], rest => some rest
  | c :: more, d :: rest => if c.toLower = d.toLower then afterPrefix? more rest else none
  | _ :: _, [] => none

/-- The parts of a name, which dots and double underscores separate; the part read so far is
given. -/
def parts (current : List Char) : List Char → List (List Char)
  | '_' :: '_' :: rest => current :: parts [] rest
  | '.' :: rest => current :: parts [] rest
  | c :: rest => parts (current ++ [c]) rest
  | [] => [current]

/-- The path that a variable leads to; white space around its name and in front of the parts plays
no part. It has none if a part of the name is empty, or if the name does not start with the prefix
and a double underscore. -/
def path? (start name : String) : Option (List String) := do
  let rest ← afterPrefix? (start.toList ++ ['_', '_']) (Text.trim name).toList
  let found := parts [] (Text.trim (String.ofList rest)).toList
  if found.any List.isEmpty then none
  else some (found.map fun part => String.ofList (part.map Char.toLower))

/-- The data that variables describe; of two that lead to the same place, the later one counts. -/
def read (start : String) (environment : List (String × String)) : Datum :=
  environment.foldl (fun data entry =>
    match path? start entry.1 with
    | some path => .overlay (.nest path (datumOf entry.2)) data
    | none => data) (.table [])

end ServiceDispatch.Environment
