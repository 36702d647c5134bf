import ServiceDispatch.Source.Lexeme

/-!
# Readers of source trees

A reader consumes trees from the front and records the tokens of what it read. The record is how a
node is written again, so a rule that drops or moves a token says so by changing the record.
-/

namespace ServiceDispatch.Source

/-- What a reader works on. -/
structure Cursor where
  /-- Trees still ahead. -/
  rest : List Tree
  /-- Tokens recorded so far, the last first. -/
  read : List Lexeme

/-- Reads a node, or refuses. -/
abbrev Reader := StateT Cursor Option

/-- Whether punctuation stands ahead. All but its last character must be joint. -/
def isMarkOf : List Char → List Tree → Bool
  | [], _ => false
  | [c], .leaf ⟨.mark d _, _⟩ :: _ => c = d
  | c :: more, .leaf ⟨.mark d joint, _⟩ :: rest => c = d && joint && isMarkOf more rest
  | _, _ => false

/-- Whether punctuation stands ahead. -/
def isMark (text : String) (ahead : List Tree) : Bool := isMarkOf text.toList ahead

/-- Whether a given word stands ahead. -/
def isWord (text : String) : List Tree → Bool
  | .leaf ⟨.word found, _⟩ :: _ => found = text
  | _ => false

/-- Whether one of some words stands ahead. -/
def isOneOf (words : List String) : List Tree → Bool
  | .leaf ⟨.word found, _⟩ :: _ => words.contains found
  | _ => false

/-- Whether any word stands ahead, a keyword included. -/
def isAnyWord : List Tree → Bool
  | .leaf ⟨.word _, _⟩ :: _ => true
  | _ => false

/-- Words that cannot name anything. -/
def keywords : List String :=
  ["_", "abstract", "as", "async", "await", "become", "box", "break", "const", "continue", "crate",
   "do", "dyn", "else", "enum", "extern", "false", "final", "fn", "for", "if", "impl", "in", "let",
   "loop", "macro", "match", "mod", "move", "mut", "override", "priv", "pub", "ref", "return",
   "Self", "self", "static", "struct", "super", "trait", "true", "try", "type", "typeof", "unsafe",
   "unsized", "use", "virtual", "where", "while", "yield"]

/-- Whether an identifier stands ahead. -/
def isName : List Tree → Bool
  | .leaf ⟨.word found, _⟩ :: _ => !keywords.contains found
  | _ => false

/-- Whether a lifetime stands ahead. -/
def isLifetime : List Tree → Bool
  | .leaf ⟨.lifetime _, _⟩ :: _ => true
  | _ => false

/-- Whether a group of a kind stands ahead. -/
def isGroup (delimiter : Delimiter) : List Tree → Bool
  | .group found _ _ :: _ => found = delimiter
  | _ => false

/-- Whether a group of any kind stands ahead. -/
def isAnyGroup : List Tree → Bool
  | .group _ _ _ :: _ => true
  | _ => false

/-- Whether a literal denotes a number. -/
def isNumber (literal : String) : Bool :=
  match literal.toList with
  | c :: _ => c.isDigit
  | [] => false

/-- Whether the literal of a text stands ahead, raw or not. -/
def isText : List Tree → Bool
  | .leaf ⟨.literal found, _⟩ :: _ => found.startsWith "\"" || found.startsWith "r"
  | _ => false

/-- Whether a literal stands ahead: a number may have a sign, and the truth values count. -/
def isLiteral : List Tree → Bool
  | .leaf ⟨.literal _, _⟩ :: _ => true
  | .leaf ⟨.word found, _⟩ :: _ => found = "true" || found = "false"
  | .leaf ⟨.mark '-' _, _⟩ :: .leaf ⟨.literal found, _⟩ :: _ => isNumber found
  | _ => false

/-- Words that stand for a module or the own type at the start of a path. -/
def pathWords : List String := ["super", "self", "Self", "crate"]

/-- Whether a name or a word of paths stands ahead. -/
def isPathWord (ahead : List Tree) : Bool := isName ahead || isOneOf pathWords ahead

namespace Reader

variable {α β : Type}

/-- The reader that refuses. -/
def refuse : Reader α := fun _ => none

/-- The trees ahead. -/
def ahead : Reader (List Tree) := fun cursor => some (cursor.rest, cursor)

/-- A question about the trees ahead. -/
def peek (question : List Tree → Bool) : Reader Bool := fun cursor =>
  some (question cursor.rest, cursor)

/-- Refuses unless the answer is yes. -/
def require (condition : Bool) : Reader Unit := if condition then pure () else refuse

/-- Adds tokens to the record. -/
def record (lexemes : List Lexeme) : Reader Unit := fun cursor =>
  some ((), { cursor with read := lexemes.reverse ++ cursor.read })

/-- Takes one tree without recording it. -/
def take : Reader Tree := fun cursor =>
  match cursor.rest with
  | tree :: rest => some (tree, { cursor with rest })
  | [] => none

/-- Takes one tree as it stands. -/
def anyTree : Reader Tree := do
  let tree ← take
  record tree.lexemes
  pure tree

/-- Takes all trees that are left as they stand. -/
def everything : Reader Unit := fun cursor =>
  some ((), ⟨[], (Tree.lexemesOf cursor.rest).reverse ++ cursor.read⟩)

/-- Takes punctuation whose characters are known to stand ahead. -/
def takeMarks : Nat → Reader Unit
  | 0 => pure ()
  | count + 1 => do
    match ← take with
    | .leaf ⟨.mark c _, span⟩ =>
      record [⟨.mark c (count ≠ 0), span⟩]
      takeMarks count
    | _ => refuse

/-- Reads punctuation. -/
def mark (text : String) : Reader Unit := do
  require (← peek (isMark text))
  takeMarks text.length

/-- Reads punctuation if it stands ahead, and answers whether it does. -/
def mark? (text : String) : Reader Bool := do
  if ← peek (isMark text) then
    takeMarks text.length
    pure true
  else pure false

/-- Reads a given word. -/
def word (text : String) : Reader Unit := do
  require (← peek (isWord text))
  discard anyTree

/-- Reads a given word if it stands ahead, and answers whether it does. -/
def word? (text : String) : Reader Bool := do
  if ← peek (isWord text) then
    discard anyTree
    pure true
  else pure false

/-- Reads a lifetime. -/
def lifetime : Reader Unit := do
  require (← peek isLifetime)
  discard anyTree

/-- Reads a lifetime if one stands ahead. -/
def lifetime? : Reader Unit := do
  if ← peek isLifetime then discard anyTree

/-- Reads a literal, with the sign of a number. -/
def literal : Reader Unit := do
  require (← peek isLiteral)
  discard (mark? "-")
  discard anyTree

/-- Runs a reader and answers what it recorded besides its result. -/
def capture (reader : Reader α) : Reader (α × List Lexeme) := fun cursor =>
  match reader ⟨cursor.rest, []⟩ with
  | some (value, after) =>
    some ((value, after.read.reverse), ⟨after.rest, after.read ++ cursor.read⟩)
  | none => none

/-- What a reader records. -/
def captured (reader : Reader Unit) : Reader (List Lexeme) := do
  let (_, lexemes) ← capture reader
  pure lexemes

/-- Runs a reader and forgets what it recorded. -/
def unrecorded (reader : Reader α) : Reader α := fun cursor =>
  match reader ⟨cursor.rest, []⟩ with
  | some (value, after) => some (value, { cursor with rest := after.rest })
  | none => none

/-- Runs a reader and records the written form of its result instead of what it read. -/
def rewritten (written : α → List Lexeme) (reader : Reader α) : Reader α := do
  let value ← unrecorded reader
  record (written value)
  pure value

/-- Runs a reader; when the question about its result is answered with yes, all that it consumed is
recorded as it stands. -/
def verbatimWhen (question : α → Bool) (reader : Reader α) : Reader α := fun cursor =>
  match reader ⟨cursor.rest, []⟩ with
  | some (value, after) =>
    let consumed := cursor.rest.take (cursor.rest.length - after.rest.length)
    let read := if question value then (Tree.lexemesOf consumed).reverse else after.read
    some (value, ⟨after.rest, read ++ cursor.read⟩)
  | none => none

/-- Runs a reader and records all that it consumed as it stands. -/
def verbatim (reader : Reader α) : Reader α := verbatimWhen (fun _ => true) reader

/-- What a reader would answer; nothing is consumed. -/
def foresee (reader : Reader α) : Reader α := fun cursor =>
  match reader cursor with
  | some (value, _) => some (value, cursor)
  | none => none

/-- Runs a reader on the inside of a group, all of which it must read; answers the stretch of the
group too. -/
def groupAt (delimiter : Delimiter) (inner : Reader α) : Reader (α × Span) := fun cursor =>
  match cursor.rest with
  | .group found trees span :: rest =>
    if found = delimiter then
      match inner ⟨trees, []⟩ with
      | some (value, ⟨[], read⟩) =>
        let lexemes := Lexeme.enclosed delimiter span read.reverse
        some ((value, span), ⟨rest, lexemes.reverse ++ cursor.read⟩)
      | _ => none
    else none
  | _ => none

/-- Runs a reader on the inside of a group, all of which it must read. -/
def group (delimiter : Delimiter) (inner : Reader α) : Reader α := do
  let (value, _) ← groupAt delimiter inner
  pure value

/-- Reads a group of any kind as it stands. -/
def anyGroup : Reader Delimiter := do
  match ← anyTree with
  | .group delimiter _ _ => pure delimiter
  | _ => refuse

/-- Whether nothing is ahead. -/
def atEnd : Reader Bool := peek List.isEmpty

/-- Tries a reader; when it refuses nothing is consumed. -/
def attempt (reader : Reader α) : Reader (Option α) := fun cursor =>
  match reader cursor with
  | some (value, after) => some (some value, after)
  | none => some (none, cursor)

/-- Reads items as long as the question is answered with yes; the fuel bounds their number. -/
def repeatBounded (question : List Tree → Bool) (item : Reader α) : Nat → Reader (List α)
  | 0 => pure []
  | fuel + 1 => do
    if ← peek question then
      let first ← item
      let others ← repeatBounded question item fuel
      pure (first :: others)
    else pure []

/-- Reads items as long as the question is answered with yes. -/
def repeatWhile (question : List Tree → Bool) (item : Reader α) : Reader (List α) := do
  let trees ← ahead
  repeatBounded question item (trees.length + 1)

/-- Reads items up to the end of a group. -/
def toEnd (item : Reader α) : Reader (List α) := repeatWhile (fun trees => !trees.isEmpty) item

/-- Reads items with separators between them until the stop stands ahead; answers the items and
whether a separator follows the last. The fuel bounds their number. -/
def separatedBounded (separator : String) (stop : List Tree → Bool) (item : Reader α) :
    Nat → Reader (List α × Bool)
  | 0 => refuse
  | fuel + 1 => do
    if ← peek stop then pure ([], true)
    else
      let first ← item
      if ← peek stop then pure ([first], false)
      else
        mark separator
        let (others, trailing) ← separatedBounded separator stop item fuel
        pure (first :: others, trailing)

/-- Reads items with separators between them until the stop stands ahead; answers the items and
whether a separator follows the last. -/
def separated (separator : String) (stop : List Tree → Bool) (item : Reader α) :
    Reader (List α × Bool) := do
  let trees ← ahead
  let (items, trailing) ← separatedBounded separator stop item (trees.length + 1)
  pure (items, trailing && !items.isEmpty)

/-- Items between commas up to the end of a group. -/
def commaList (item : Reader α) : Reader (List α × Bool) := separated "," List.isEmpty item

/-- Reads items that go on as long as a separator follows and the stop does not; the fuel bounds
their number. -/
def chainedBounded (separator : String) (stop : List Tree → Bool) (item : Reader α) :
    Nat → Reader (List α × Bool)
  | 0 => refuse
  | fuel + 1 => do
    if ← peek stop then pure ([], true)
    else
      let first ← item
      if ← mark? separator then
        let (others, trailing) ← chainedBounded separator stop item fuel
        pure (first :: others, trailing)
      else pure ([first], false)

/-- Reads items that go on as long as a separator follows and the stop does not; answers the items
and whether a separator follows the last. -/
def chained (separator : String) (stop : List Tree → Bool) (item : Reader α) :
    Reader (List α × Bool) := do
  let trees ← ahead
  let (items, trailing) ← chainedBounded separator stop item (trees.length + 1)
  pure (items, trailing && !items.isEmpty)

/-- Runs a reader on whole trees. -/
def run? (reader : Reader α) (trees : List Tree) : Option α :=
  match reader ⟨trees, []⟩ with
  | some (value, ⟨[], _⟩) => some value
  | _ => none

end Reader

end ServiceDispatch.Source
