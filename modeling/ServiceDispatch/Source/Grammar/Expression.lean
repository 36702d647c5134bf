import ServiceDispatch.Source.Grammar.Pattern

/-!
# Reading expressions and statements

Bodies are only checked and written again, so nothing of an expression is kept but its tokens and
its shape.
-/

namespace ServiceDispatch.Source

namespace Grammar

open Reader

variable (g : Grammar)

/-- Precedence of an operator; a higher one binds tighter. -/
abbrev Precedence := Nat

/-- The precedence of assignments. -/
def assignment : Precedence := 1

/-- The precedence of ranges. -/
def ranges : Precedence := 2

/-- The precedence of comparisons. -/
def comparisons : Precedence := 5

/-- The precedence of conversions. -/
def conversions : Precedence := 12

/-- Binary operators with their precedences, longer ones before their beginnings. -/
def binaryOperators : List (String × Precedence) :=
  [("<<=", assignment), (">>=", assignment), ("+=", assignment), ("-=", assignment),
   ("*=", assignment), ("/=", assignment), ("%=", assignment), ("^=", assignment),
   ("&=", assignment), ("|=", assignment),
   ("&&", 4), ("||", 3), ("<<", 9), (">>", 9),
   ("==", comparisons), ("<=", comparisons), ("!=", comparisons), (">=", comparisons),
   ("+", 10), ("-", 10), ("*", 11), ("/", 11), ("%", 11), ("^", 7), ("&", 8), ("|", 6),
   ("<", comparisons), (">", comparisons)]

/-- The binary operator that stands ahead. -/
def binaryOperator? (trees : List Tree) : Option (String × Precedence) :=
  binaryOperators.find? fun row => isMark row.1 trees

/-- Whether an assignment stands ahead. -/
def isAssignment (trees : List Tree) : Bool :=
  isMark "=" trees && !isMark "==" trees && !isMark "=>" trees

/-- The precedence of the operator that stands ahead; the lowest when there is none. -/
def nextPrecedence (trees : List Tree) : Precedence :=
  match binaryOperator? trees with
  | some (_, precedence) => precedence
  | none =>
    if isAssignment trees then assignment
    else if isMark ".." trees then ranges
    else if isWord "as" trees then conversions
    else 0

/-- Whether an expression may start ahead. -/
def isExpressionStart (trees : List Tree) : Bool :=
  (isAnyWord trees && !isWord "as" trees) || isAnyGroup trees || isLiteral trees ||
    (isMark "!" trees && !isMark "!=" trees) ||
    (isMark "-" trees && !isMark "-=" trees && !isMark "->" trees) ||
    (isMark "*" trees && !isMark "*=" trees) ||
    (isMark "|" trees && !isMark "|=" trees) ||
    (isMark "&" trees && !isMark "&=" trees) ||
    isMark ".." trees ||
    (isMark "<" trees && !isMark "<=" trees && !isMark "<<=" trees) ||
    isMark "::" trees || isLifetime trees || isMark "#" trees

/-- Attributes with the expression that they belong to. A range stands in parentheses after them,
and an expression that is kept as it stands drops them. -/
def attributed (attributes : List Lexeme) (shape : ExpressionShape) (lexemes : List Lexeme) :
    List Lexeme :=
  if attributes.isEmpty then lexemes
  else
    match shape with
    | .range => attributes ++ Lexeme.enclosed .parenthesis .nowhere lexemes
    | .verbatim => lexemes
    | _ => attributes ++ lexemes

/-- The inside of a list of expressions. -/
def expressionList : Reader Unit := discard (commaList (g.expression true))

/-- A field of a structure expression with its value. -/
def fieldValue : Reader Unit := do
  discard (outerAttributes g)
  let isNamed ← member
  if !isNamed || (← peek (isMark ":")) then
    mark ":"
    discard (g.expression true)

/-- The fields of a structure expression, and at the end the base that gives the other fields. -/
def fieldValues : Reader Unit := do
  discard <| repeatWhile (fun trees => !trees.isEmpty && !isMark ".." trees) do
    fieldValue g
    if !(← atEnd) then mark ","
  if ← mark? ".." then
    if !(← atEnd) then discard (g.expression true)

/-- A path, a macro call or a structure. -/
def pathExpression (structs : Bool) : Reader ExpressionShape := do
  let found ← qualifiedPath g true
  let isPlain := (found.map TypePath.isPlain).getD false
  let trees ← ahead
  if isPlain && isBang trees then
    let delimiter ← macroCall
    pure (.macroCall delimiter)
  else
    if structs && isGroup .brace trees then group .brace (fieldValues g)
    pure .other

/-- Whether a path stands ahead in an expression. -/
def isPathExpression (trees : List Tree) : Bool :=
  let next := trees.drop 1
  isPathWord trees || isMark "::" trees || isMark "<" trees ||
    (isWord "try" trees && (isMark "!" next || isMark "::" next))

/-- The members that a literal such as `0.1` names after a point, with points between them. -/
def memberLexemes? (text : String) (span : Span) : Option (List Lexeme) :=
  ((text.splitOn ".").mapM memberIndex?).map fun indexes =>
    (indexes.map fun index => indexLexeme index span).intersperse ⟨.mark '.' false, span⟩

/-- What follows a point other than a literal with points: a wait, a field or a method call. -/
def namedMember : Reader Unit := do
  if ← peek (isWord "await") then word "await"
  else
    let isNamed ← member
    if isNamed then
      let isGeneric ← peek (isMark "::")
      if isGeneric then discard (angleArguments g)
      if isGeneric || (← peek (isGroup .parenthesis)) then
        group .parenthesis (expressionList g)

/-- What follows a point: members by their numbers, a wait, a field or a method call. -/
def memberTail : Reader Unit := do
  match ← ahead with
  | .leaf ⟨.literal text, span⟩ :: _ =>
    if text.contains '.' then
      discard take
      let endsInPoint := text.endsWith "."
      match memberLexemes? (if endsInPoint then (text.dropEnd 1).toString else text) span with
      | some lexemes =>
        record lexemes
        if endsInPoint then
          record [⟨.mark '.' false, span⟩]
          namedMember g
      | none => refuse
    else namedMember g
  | _ => namedMember g

/-- Whether something that applies to the expression before it stands ahead. -/
def isTrailer (trees : List Tree) : Bool :=
  isGroup .parenthesis trees || isGroup .bracket trees || isMark "?" trees ||
    (isMark "." trees && !isMark ".." trees)

/-- A call, an index, a member or an error return. -/
def trailer : Reader Unit := do
  let trees ← ahead
  if isGroup .parenthesis trees then group .parenthesis (expressionList g)
  else if isGroup .bracket trees then group .bracket (discard (g.expression true))
  else if isMark "?" trees then mark "?"
  else
    mark "."
    memberTail g

/-- What applies to an expression; answers the shape of the whole. -/
def trailers (shape : ExpressionShape) : Reader ExpressionShape := do
  if shape = .range then pure shape
  else
    let found ← repeatWhile isTrailer (trailer g)
    pure (if found.isEmpty then shape else .other)

/-- A condition and its blocks; the fuel bounds the number of alternatives. -/
def conditional : (fuel : Nat) → Reader Unit
  | 0 => refuse
  | fuel + 1 => do
    word "if"
    discard (g.expression false)
    g.block false
    if ← word? "else" then
      if ← peek (isWord "if") then conditional fuel else g.block false

/-- Whether an expression that stands in a branch needs a comma after it. -/
def needsComma (shape : ExpressionShape) : Bool := shape ≠ .block

/-- A branch of a choice: its pattern, its guard and its expression. -/
def choiceBranch : Reader Unit := do
  discard (outerAttributes g)
  discard (alternatives g)
  if ← word? "if" then discard (g.expression true)
  mark "=>"
  let shape ← g.branch
  if needsComma shape && !(← atEnd) then mark ","
  else discard (mark? ",")

/-- A choice between patterns. -/
def choice : Reader Unit := do
  word "match"
  discard (g.expression false)
  group .brace do
    discard (innerAttributes g)
    discard (toEnd (choiceBranch g))

/-- A loop of any kind. -/
def loop_ : Reader Unit := do
  if ← word? "while" then discard (g.expression false)
  else if ← word? "for" then
    discard (alternatives g)
    word "in"
    discard (g.expression false)
  else word "loop"
  g.block true

/-- The parameter of an anonymous function. -/
def closureInput : Reader Unit := do
  let attributes ← unrecorded (captured (discard (outerAttributes g)))
  let ((_, shape), lexemes) ← unrecorded (capture g.pattern)
  if ← peek (isMark ":") then
    record (attributes ++ lexemes)
    mark ":"
    discard (g.type true)
  else
    record <|
      match shape with
      | .range _ => attributed attributes .range lexemes
      | .verbatim => attributed attributes .verbatim lexemes
      | .other => attributed attributes .other lexemes

/-- An anonymous function. -/
def closure (structs : Bool) : Reader Unit := do
  discard (binder? g)
  discard (word? "const")
  discard (word? "static")
  discard (word? "async")
  discard (word? "move")
  mark "|"
  discard (separated "," (isMark "|") (closureInput g))
  mark "|"
  if ← mark? "->" then
    discard (g.type true)
    g.block false
  else discard (g.expression structs)

/-- Whether an anonymous function stands ahead. -/
def isClosure (trees : List Tree) : Bool :=
  let next := trees.drop 1
  isMark "|" trees || isWord "move" trees ||
    (isWord "for" trees && isGenericsStart next) ||
    (isWord "const" trees && !isGroup .brace next) || isWord "static" trees ||
    (isWord "async" trees && (isMark "|" next || isWord "move" next))

/-- Whether a block that is run later stands ahead. -/
def isAsyncBlock (trees : List Tree) : Bool :=
  let next := trees.drop 1
  isWord "async" trees &&
    (isGroup .brace next || (isWord "move" next && skipping 1 (isGroup .brace) next))

/-- An expression that leaves the surrounding code, with its value. A label before a value must not
be taken for the label of the value. -/
def leave (structs : Bool) : Reader Unit := do
  let isBreak ← word? "break"
  if isBreak then
    if ← peek isLifetime then
      lifetime
      require (!(← peek (isMark ":")))
  else if !(← word? "return") then word "yield"
  let trees ← ahead
  if isExpressionStart trees && (structs || !isBreak || !isGroup .brace trees) then
    discard (g.expression true)

/-- A call that takes the place of the function around it, kept as it stands. -/
def tailCall : Reader Unit :=
  verbatim do
    word "become"
    discard (g.expression true)

/-- A form that only the compiler knows, kept as it stands. -/
def builtinForm : Reader Unit :=
  verbatim do
    word "builtin"
    mark "#"
    discard name
    require (← peek (isGroup .parenthesis))
    discard anyTree

/-- An array by its items, or by one item and a length. -/
def arrayItems : Reader Unit := do
  if !(← atEnd) then
    discard (g.expression true)
    if ← mark? ";" then discard (g.expression true)
    else if ← mark? "," then expressionList g

/-- Whether a loop stands ahead. -/
def isLoop (trees : List Tree) : Bool := isOneOf ["loop", "while", "for"] trees

/-- A block or a loop with a label. -/
def labelled : Reader Unit := do
  lifetime
  mark ":"
  if ← peek isLoop then loop_ g else g.block true

/-- The block forms of expressions. -/
def blockForm : Reader Unit := do
  let trees ← ahead
  if isLifetime trees then labelled g
  else if isWord "if" trees then conditional g (trees.length + 1)
  else if isWord "match" trees then choice g
  else if isLoop trees then loop_ g
  else if ← word? "try" then g.block false
  else
    if !(← word? "unsafe") then discard (word? "const")
    g.block true

/-- Whether a block form stands ahead. -/
def isBlockForm (trees : List Tree) : Bool :=
  let next := trees.drop 1
  isOneOf ["if", "match", "loop", "while"] trees ||
    (isWord "for" trees && !isClosure trees) ||
    isGroup .brace trees ||
    (isOneOf ["unsafe", "const", "try"] trees && isGroup .brace next) ||
    isLifetime trees

/-- An expression without operators around it. -/
def atom (structs : Bool) : Reader ExpressionShape := do
  let trees ← ahead
  if isLiteral trees then
    literal
    pure .other
  else if isAsyncBlock trees then
    word "async"
    discard (word? "move")
    g.block false
    pure .other
  else if isBlockForm trees then
    blockForm g
    pure .block
  else if isClosure trees then
    closure g structs
    pure .other
  else if isWord "builtin" trees && skipping 1 (isMark "#") trees then
    builtinForm
    pure .verbatim
  else if isPathExpression trees then pathExpression g structs
  else if isGroup .parenthesis trees then
    group .parenthesis (expressionList g)
    pure .other
  else if isGroup .bracket trees then
    group .bracket (arrayItems g)
    pure .other
  else if isOneOf ["break", "return", "yield"] trees then
    leave g structs
    pure .other
  else if isWord "become" trees then
    tailCall g
    pure .verbatim
  else if isWord "continue" trees then
    word "continue"
    lifetime?
    pure .other
  else if isWord "_" trees then
    word "_"
    pure .other
  else if isWord "let" trees then
    word "let"
    discard (alternatives g)
    mark "="
    g.scrutinee structs
    pure .other
  else if isMark ".." trees then g.expression structs
  else refuse

/-- The marks of a reference: to a place as it is, or to a value. -/
def referenceMarks : Reader Unit := do
  mark "&"
  let next ← ahead
  if isWord "raw" next && skipping 1 (isOneOf ["mut", "const"]) next then
    word "raw"
    if !(← word? "mut") then word "const"
  else discard (word? "mut")

/-- Attributes, signs and reference marks before an expression; the fuel bounds their number. A
range takes no attributes. -/
def unary (structs : Bool) : (fuel : Nat) → Reader ExpressionShape
  | 0 => refuse
  | fuel + 1 =>
    verbatimWhen (fun shape => shape = .verbatim) do
      let attributes ← outerAttributes g
      let trees ← ahead
      if isMark "&" trees then
        referenceMarks
        discard (unary structs fuel)
        pure .other
      else if isMark "*" trees || isMark "!" trees || isMark "-" trees then
        takeMarks 1
        discard (unary structs fuel)
        pure .other
      else
        let shape ← atom g structs
        let shape ← trailers g shape
        require (attributes.isEmpty || shape ≠ .range)
        pure shape

/-- An operand with what stands before it. -/
def operand (structs : Bool) : Reader ExpressionShape := do
  let trees ← ahead
  unary g structs (trees.length + 1)

/-- Marks that cannot start the upper end of a range. -/
def rangeStops : List String :=
  [",", ";", "?", "=>", "=", "+", "/", "%", "^", ">", "<=", "!=", "-=", "*=", "&=", "|=", "<<="]

/-- Whether a range ends ahead without an upper end. -/
def isRangeStop (structs : Bool) (trees : List Tree) : Bool :=
  trees.isEmpty || (rangeStops.any fun stop => isMark stop trees) ||
    (isMark "." trees && !isMark ".." trees) || (!structs && isGroup .brace trees) ||
    isWord "as" trees

/-- The mark of a range; answers whether the range includes its upper end. -/
def rangeMark : Reader Bool := do
  if ← mark? "..=" then pure true
  else
    require (!(← peek (isMark "...")))
    mark ".."
    pure false

mutual

/-- What follows an operand: operators of at least the given precedence with their operands. The
fuel bounds their number. -/
def operators (structs : Bool) :
    (fuel : Nat) → (shape : ExpressionShape) → (least : Precedence) → Reader ExpressionShape
  | 0, _, _ => refuse
  | fuel + 1, shape, least => do
    let trees ← ahead
    if shape = .range then pure shape
    else
      match binaryOperator? trees with
      | some (text, precedence) =>
        if precedence < least then pure shape
        else
          require (!(precedence = comparisons && shape = .comparison))
          mark text
          discard (rightSide structs fuel precedence)
          operators structs fuel (if precedence = comparisons then .comparison else .other) least
      | none =>
        if least ≤ assignment && isAssignment trees then
          mark "="
          discard (rightSide structs fuel assignment)
          operators structs fuel .other least
        else if least ≤ ranges && isMark ".." trees then
          rangeEnd structs fuel
          operators structs fuel .range least
        else if least ≤ conversions && isWord "as" trees then
          word "as"
          discard (g.type false)
          operators structs fuel .other least
        else pure shape

/-- The right side of an operator, which takes operators that bind tighter. -/
def rightSide (structs : Bool) :
    (fuel : Nat) → (precedence : Precedence) → Reader ExpressionShape
  | 0, _ => refuse
  | fuel + 1, precedence => do
    let shape ← operand g structs
    tighter structs fuel shape precedence

/-- Operators after an operand that bind tighter than the operator before it, or as tight when
they assign. -/
def tighter (structs : Bool) :
    (fuel : Nat) → (shape : ExpressionShape) → (precedence : Precedence) → Reader ExpressionShape
  | 0, _, _ => refuse
  | fuel + 1, shape, precedence => do
    let trees ← ahead
    let next := nextPrecedence trees
    if next > precedence || (next = precedence && precedence = assignment) then
      let found ← operators structs fuel shape next
      let left ← ahead
      if left.length = trees.length then pure found
      else tighter structs fuel found precedence
    else pure shape

/-- The mark and the upper end of a range. -/
def rangeEnd (structs : Bool) : (fuel : Nat) → Reader Unit
  | 0 => refuse
  | fuel + 1 => do
    let isClosed ← rangeMark
    let trees ← ahead
    if !isClosed && isRangeStop structs trees then pure ()
    else discard (rightSide structs fuel ranges)

end

/-- An expression after its first operand. -/
def afterOperand (structs : Bool) (shape : ExpressionShape) (least : Precedence) :
    Reader ExpressionShape := do
  let trees ← ahead
  operators g structs (2 * trees.length + 4) shape least

/-- A range without a lower end. -/
def openRange (structs : Bool) : Reader ExpressionShape := do
  let trees ← ahead
  rangeEnd g structs (2 * trees.length + 4)
  pure .range

/-- An expression. -/
def expressionRule (structs : Bool) : Reader ExpressionShape := do
  if ← peek (isMark "..") then openRange g structs
  else
    let shape ← operand g structs
    afterOperand g structs shape 0

/-- The value that a condition matches with a pattern. -/
def scrutineeRule (structs : Bool) : Reader Unit := do
  let shape ← operand g structs
  discard (afterOperand g structs shape comparisons)

/-- An expression at the start of a statement or of a branch, after its attributes: one that ends in
its own block is no operand of what follows, a member or an error return excepted. Answers the
shapes of its first operand and of the whole. -/
def earlyExpression : Reader (ExpressionShape × ExpressionShape) := do
  if ← peek isBlockForm then
    blockForm g
    let next ← ahead
    if (isMark "." next && !isMark ".." next) || isMark "?" next then
      let first ← trailers g .block
      let whole ← afterOperand g true first 0
      pure (first, whole)
    else pure (.block, .block)
  else
    let first ← operand g true
    let whole ← afterOperand g true first 0
    pure (first, whole)

/-- The expression of a branch with its attributes, which belong to its first operand. -/
def branchRule : Reader ExpressionShape := do
  let attributes ← unrecorded (captured (discard (outerAttributes g)))
  let ((first, whole), lexemes) ← unrecorded (capture (earlyExpression g))
  record (attributed attributes first lexemes)
  pure whole

/-- The expression of a statement with its attributes, which belong to its first operand unless the
whole is a range. -/
def statementExpression : Reader ExpressionShape := do
  let attributes ← unrecorded (captured (discard (outerAttributes g)))
  let ((first, whole), lexemes) ← unrecorded (capture (earlyExpression g))
  record (attributed attributes (if whole = .range then .range else first) lexemes)
  pure whole

end Grammar

end ServiceDispatch.Source
