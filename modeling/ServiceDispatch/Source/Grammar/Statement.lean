import ServiceDispatch.Source.Grammar.Expression

/-!
# Reading statements and blocks
-/

namespace ServiceDispatch.Source

namespace Grammar

open Reader

variable (g : Grammar)

/-- What a statement is. -/
inductive StatementKind where
  /-- A macro call with braces, which needs no semicolon. -/
  | macroBlock
  /-- A binding of a pattern to a value. -/
  | binding
  /-- A declaration. -/
  | declaration
  /-- An expression. -/
  | expression
  deriving DecidableEq, Repr

/-- Whether a declaration stands ahead by its first words. -/
def isDeclaration (trees : List Tree) : Bool :=
  let next := trees.drop 1
  isOneOf ["pub", "extern", "use", "fn", "mod", "type", "struct", "enum", "trait", "impl", "macro"]
      trees ||
    (isWord "crate" trees && !isMark "::" next) ||
    (isWord "static" trees && (isWord "mut" next || isName next)) ||
    (isWord "const" trees &&
      !(isGroup .brace next || isOneOf ["static", "move"] next || isMark "|" next ||
        (isWord "async" next && !skipping 1 (isOneOf ["unsafe", "extern", "fn"]) next))) ||
    (isWord "unsafe" trees && !isGroup .brace next) ||
    (isWord "async" trees && isOneOf ["unsafe", "extern", "fn"] next) ||
    (isWord "union" trees && isName next) ||
    (isWord "auto" trees && isWord "trait" next) ||
    (isWord "default" trees && isOneOf ["unsafe", "impl"] next)

/-- Whether the mark of a macro and its braces stand ahead, and nothing applies to the call. -/
def isMacroBlock (trees : List Tree) : Bool :=
  let next := trees.drop 2
  isMark "!" trees && skipping 1 (isGroup .brace) trees &&
    !((isMark "." next && !isMark ".." next) || isMark "?" next)

/-- Whether the mark of a macro that declares a name stands ahead. -/
def isNamedMacro (trees : List Tree) : Bool :=
  isMark "!" trees && (skipping 1 isName trees || skipping 1 (isWord "try") trees)

/-- The trees after the plain path that stands ahead; nothing when none does. -/
def afterPath (trees : List Tree) : List Tree :=
  match plainPath ⟨trees, []⟩ with
  | some (_, left) => left.rest
  | none => []

/-- What the statement is whose trees stand ahead, attributes excepted. -/
def statementKind (trees : List Tree) : StatementKind :=
  let afterPath := afterPath trees
  if isMacroBlock afterPath then .macroBlock
  else if isWord "let" trees then .binding
  else if isDeclaration trees || isNamedMacro afterPath then .declaration
  else .expression

/-- Whether the last of some tokens closes a brace. -/
def endsInBrace (lexemes : List Lexeme) : Bool :=
  match lexemes.getLast? with
  | some ⟨.closing .brace, _⟩ => true
  | _ => false

/-- A binding of a pattern to a value, and the block that runs when the pattern does not match. -/
def binding : Reader Unit := do
  word "let"
  discard g.pattern
  if ← mark? ":" then discard (g.type true)
  if ← mark? "=" then
    let lexemes ← captured (discard (g.expression true))
    if !endsInBrace lexemes && (← peek (isWord "else")) then
      word "else"
      g.block false
  mark ";"

/-- One statement; answers whether a semicolon must follow unless it is the last. -/
def statement : Reader Bool := do
  let kind ← foresee do
    discard (outerAttributes g)
    let trees ← ahead
    pure (statementKind trees)
  match kind with
  | .macroBlock =>
    discard (outerAttributes g)
    discard plainPath
    discard macroCall
    discard (mark? ";")
    pure false
  | .binding =>
    discard (outerAttributes g)
    binding g
    pure false
  | .declaration =>
    g.declaration
    pure false
  | .expression =>
    let shape ← statementExpression g
    if ← mark? ";" then pure false
    else pure (shape ≠ .block && shape ≠ .macroCall .brace)

/-- The statements of a body; the fuel bounds their number. -/
def statements : (fuel : Nat) → Reader Unit
  | 0 => refuse
  | fuel + 1 => do
    discard (repeatWhile (isMark ";") (mark ";"))
    if ← atEnd then pure ()
    else
      let needsSemicolon ← statement g
      if ← atEnd then pure ()
      else
        require (!needsSemicolon)
        statements fuel

/-- The statements up to the end of a body. -/
def allStatements : Reader Unit := do
  let trees ← ahead
  statements g (trees.length + 1)

/-- A block with its brackets; with `inner` it may start with attributes. -/
def blockRule (inner : Bool) : Reader Unit :=
  group .brace do
    if inner then discard (innerAttributes g)
    allStatements g

end Grammar

end ServiceDispatch.Source
