import ServiceDispatch.Source.Item
import ServiceDispatch.Source.Literal
import ServiceDispatch.Source.Reader

/-!
# The mutual parts of the grammar

Types hold expressions, expressions hold patterns and blocks, and all of them hold types. Each rule
takes the readers of these parts from a table, and the table is tied up to any depth of nesting at
the end.
-/

namespace ServiceDispatch.Source

/-- What later rules ask about an expression that was read. -/
inductive ExpressionShape where
  /-- It ends in its own block, so that no semicolon need follow. -/
  | block
  /-- A macro call with the given bracket. -/
  | macroCall (delimiter : Delimiter)
  /-- A comparison, which cannot be compared again. -/
  | comparison
  /-- A range, which cannot be an operand. -/
  | range
  /-- An expression that is kept as it stands, attributes included. -/
  | verbatim
  /-- Any other expression. -/
  | other
  deriving DecidableEq, Repr

/-- What later rules ask about a pattern that was read. -/
inductive PatternShape where
  /-- A range of values; it is open when one of its bounds is missing. -/
  | range (isOpen : Bool)
  /-- A pattern that is kept as it stands. -/
  | verbatim
  /-- Any other pattern. -/
  | other
  deriving DecidableEq, Repr

/-- Readers of the mutual parts. -/
structure Grammar where
  /-- A type; with `allowPlus` several bounds may be joined without parentheses. -/
  type : (allowPlus : Bool) → Reader Ty
  /-- A bound of a parameter. -/
  bound : Reader Bound
  /-- A pattern without alternatives. -/
  pattern : Reader (Pattern × PatternShape)
  /-- An expression; without `structs` a brace ends it. -/
  expression : (structs : Bool) → Reader ExpressionShape
  /-- The value that a condition matches with a pattern; without `structs` a brace ends it. -/
  scrutinee : (structs : Bool) → Reader Unit
  /-- The expression of a branch with its attributes. -/
  branch : Reader ExpressionShape
  /-- A block of statements with its brackets; with `inner` it may start with attributes. -/
  block : (inner : Bool) → Reader Unit
  /-- A declaration inside a body with its attributes. -/
  declaration : Reader Unit

namespace Grammar

/-- The table whose readers refuse everything. -/
def bottom : Grammar where
  type _ := Reader.refuse
  bound := Reader.refuse
  pattern := Reader.refuse
  expression _ := Reader.refuse
  scrutinee _ := Reader.refuse
  branch := Reader.refuse
  block _ := Reader.refuse
  declaration := Reader.refuse

end Grammar

namespace Reader

/-- Reads a word as a name. -/
def anyName : Reader Name := do
  match ← anyTree with
  | .leaf ⟨.word text, span⟩ => pure ⟨text, span⟩
  | _ => refuse

/-- Reads an identifier. -/
def name : Reader Name := do
  require (← peek isName)
  anyName

/-- The token of a member without a name. -/
def indexLexeme (index : Nat) (span : Span) : Lexeme := ⟨.literal (toString index), span⟩

/-- Reads a member by its name or its number, which is written in plain digits; answers whether it
has a name. -/
def member : Reader Bool := do
  if ← peek isName then
    discard anyName
    pure true
  else
    match ← take with
    | .leaf ⟨.literal text, span⟩ =>
      match memberIndex? text with
      | some index =>
        record [indexLexeme index span]
        pure false
      | none => refuse
    | _ => refuse

/-- Reads names that go on as long as separators follow. The fuel bounds their number. -/
def plainNames : Nat → Reader (List Name)
  | 0 => refuse
  | fuel + 1 => do
    require (← peek isPathWord)
    let first ← anyName
    if ← mark? "::" then
      let others ← plainNames fuel
      pure (first :: others)
    else pure [first]

/-- Reads a path of plain names. -/
def plainPath : Reader NamePath := do
  let lexemes ← captured (discard (mark? "::"))
  let trees ← ahead
  let names ← plainNames (trees.length + 1)
  pure ⟨if lexemes.isEmpty then none else some (Lexeme.spanOf lexemes), names⟩

/-- Reads the mark and the bracket of a macro call, as they stand. -/
def macroCall : Reader Delimiter := do
  mark "!"
  anyGroup

end Reader

/-- Whether the mark of a macro call stands ahead. -/
def isBang (ahead : List Tree) : Bool := isMark "!" ahead && !isMark "!=" ahead

/-- Whether a given predicate holds of the trees after the first few. -/
def skipping (count : Nat) (question : List Tree → Bool) (ahead : List Tree) : Bool :=
  question (ahead.drop count)

end ServiceDispatch.Source
