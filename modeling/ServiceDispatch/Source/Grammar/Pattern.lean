import ServiceDispatch.Source.Grammar.Type

/-!
# Reading patterns

Parameters are told apart only by whether their pattern is a plain identifier, so any other pattern
is kept as tokens.
-/

namespace ServiceDispatch.Source

namespace Grammar

open Reader

variable (g : Grammar)

/-- Whether a separator of alternatives stands ahead. -/
def isAlternative (trees : List Tree) : Bool :=
  isMark "|" trees && !isMark "||" trees && !isMark "|=" trees

/-- A pattern with alternatives, which a separator may precede; answers its shape. -/
def alternatives : Reader PatternShape := do
  let isMarked ← mark? "|"
  let (_, shape) ← g.pattern
  let others ← repeatWhile isAlternative do
    mark "|"
    g.pattern
  pure (if isMarked || !others.isEmpty then .other else shape)

/-- Whether no bound of a range can stand ahead. -/
def isRangeEnd (trees : List Tree) : Bool :=
  trees.isEmpty || isMark "|" trees || isMark "=" trees ||
    (isMark ":" trees && !isMark "::" trees) || isMark "," trees || isMark ";" trees ||
    isWord "if" trees

/-- A constant block. -/
def constantBlock : Reader Unit := do
  word "const"
  g.block true

/-- A path or a literal that bounds a range of values, if there is one; answers whether there is. -/
def rangeBound? : Reader Bool := do
  let trees ← ahead
  if isRangeEnd trees then pure false
  else
    if isLiteral trees then literal
    else if isWord "const" trees then constantBlock g
    else
      require (isPathWord trees || isMark "::" trees || isMark "<" trees)
      discard (qualifiedPath g true)
    pure true

/-- The mark of a range that includes its upper bound, if it stands ahead; answers whether it does.
Its old form is written as the new one. -/
def closedMark? : Reader Bool := do
  if ← mark? "..=" then pure true
  else if ← peek (isMark "...") then
    let dots ← unrecorded (captured (mark "..."))
    record (Lexeme.ofMark "..=" (Lexeme.spanOf dots))
    pure true
  else pure false

/-- The mark of a range and its upper bound, which a closed range has; answers whether there is a
bound. -/
def rangeTail : Reader Bool := do
  let isClosed ← closedMark?
  if !isClosed then mark ".."
  let isBounded ← rangeBound? g
  require (isBounded || !isClosed)
  pure isBounded

/-- A range that starts with a bound, after the bound; answers its shape. -/
def rangeFrom : Reader PatternShape := do
  let isBounded ← rangeTail g
  pure (.range (!isBounded))

/-- The name of a field with its modifiers. One with a box is kept as it stands. -/
def fieldName : Reader Unit :=
  discard <| verbatimWhen id do
    let isBoxed ← word? "box"
    discard (word? "ref")
    discard (word? "mut")
    discard name
    pure isBoxed

/-- A field of a pattern, by its name or its number. -/
def fieldPattern : Reader Unit := do
  let trees ← ahead
  let isNamed := isOneOf ["box", "ref", "mut"] trees ||
    (isName trees && !skipping 1 (isMark ":") trees)
  if isNamed then fieldName
  else
    discard member
    mark ":"
    discard (alternatives g)

/-- The fields of a pattern with attributes. Two points stand for those that are left, at the end.
-/
def fieldPatterns : Reader Unit :=
  discard <| toEnd do
    discard (outerAttributes g)
    if ← mark? ".." then require (← atEnd)
    else
      fieldPattern g
      if !(← atEnd) then mark ","

/-- A pattern that starts with a path; answers its shape. -/
def pathPattern : Reader PatternShape := do
  let found ← qualifiedPath g true
  let isPlain := (found.map TypePath.isPlain).getD false
  let trees ← ahead
  if isPlain && isBang trees then
    discard macroCall
    pure .other
  else if isGroup .brace trees then
    group .brace (fieldPatterns g)
    pure .other
  else if isGroup .parenthesis trees then
    discard (group .parenthesis (commaList (alternatives g)))
    pure .other
  else if isMark ".." trees then rangeFrom g
  else pure .other

/-- A pattern that starts with a literal or a constant block; answers its shape. -/
def literalPattern : Reader PatternShape := do
  require (← rangeBound? g)
  if ← peek (isMark "..") then rangeFrom g else pure .other

/-- A range without a lower bound, or two points alone; answers its shape. -/
def openPattern : Reader PatternShape := do
  let isClosed ← mark? "..="
  if !isClosed then mark ".."
  let isBounded ← rangeBound? g
  require (isBounded || !isClosed)
  pure (if isBounded then .range true else .other)

/-- The patterns of the items of a list. A range without a bound would be read as two points. -/
def itemPatterns : Reader Unit :=
  discard <| commaList do
    let shape ← alternatives g
    require (shape ≠ .range true)

/-- An identifier with its modifiers and the pattern it is bound to. -/
def identifierPattern : Reader Pattern := do
  let (found, lexemes) ← capture do
    let isReference ← word? "ref"
    let mutable ← word? "mut"
    let ident ← if ← peek (isWord "self") then anyName else name
    if ← mark? "@" then
      discard g.pattern
      pure none
    else pure (if isReference then none else some (Pattern.name mutable ident))
  pure (found.getD (.other lexemes))

/-- Whether a pattern that starts with a path stands ahead. -/
def isPathPattern (trees : List Tree) : Bool :=
  let next := trees.drop 1
  (isName trees &&
      (isMark "::" next || isMark "!" next || isGroup .brace next || isGroup .parenthesis next ||
        isMark ".." next)) ||
    (isWord "self" trees && isMark "::" next) ||
    isMark "::" trees || isMark "<" trees || isOneOf ["Self", "super", "crate"] trees

/-- A pattern that is not looked into. -/
def opaquePattern (reader : Reader PatternShape) : Reader (Pattern × PatternShape) := do
  let (shape, lexemes) ← capture reader
  pure (.other lexemes, shape)

/-- A pattern of no particular shape that is not looked into. -/
def plainPattern (reader : Reader Unit) : Reader (Pattern × PatternShape) :=
  opaquePattern do
    reader
    pure .other

/-- A pattern without alternatives. -/
def patternRule : Reader (Pattern × PatternShape) := do
  let trees ← ahead
  if isPathPattern trees then opaquePattern (pathPattern g)
  else if isWord "_" trees then plainPattern (word "_")
  else if isWord "box" trees then
    opaquePattern <| verbatim do
      word "box"
      discard g.pattern
      pure .verbatim
  else if isMark "-" trees || isLiteral trees || isWord "const" trees then
    opaquePattern (literalPattern g)
  else if isOneOf ["ref", "mut", "self"] trees || isName trees then
    let pattern ← identifierPattern g
    pure (pattern, .other)
  else if isMark "&" trees then
    plainPattern do
      mark "&"
      discard (word? "mut")
      discard g.pattern
  else if isGroup .parenthesis trees then
    plainPattern (discard (group .parenthesis (commaList (alternatives g))))
  else if isGroup .bracket trees then plainPattern (group .bracket (itemPatterns g))
  else if isMark ".." trees && !isMark "..." trees then opaquePattern (openPattern g)
  else refuse

end Grammar

end ServiceDispatch.Source
