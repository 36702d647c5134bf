import ServiceDispatch.Source.Grammar.Knot

/-!
# Reading attributes
-/

namespace ServiceDispatch.Source

namespace Grammar

open Reader

variable (g : Grammar)

/-- Whether an attribute stands ahead. -/
def isAttribute (trees : List Tree) : Bool :=
  isMark "#" trees && skipping 1 (isGroup .bracket) trees

/-- The value after an equals sign: a literal that ends the attribute, or an expression, which has
no attributes of its own. -/
def attributeValue : Reader Unit := do
  let trees ← ahead
  if isLiteral trees && (trees.length = 1 || (isMark "-" trees && trees.length = 2)) then literal
  else
    require (!isAttribute trees)
    discard (g.expression true)

/-- The inside of an attribute. -/
def attributeBody : Reader (NamePath × AttributeArguments) := do
  let path ←
    if ← peek (isWord "unsafe") then
      let name ← anyName
      pure (NamePath.mk none [name])
    else plainPath
  if ← peek isAnyGroup then
    match ← anyTree with
    | .group delimiter trees span => pure (path, .list delimiter trees span)
    | _ => refuse
  else if ← peek (isMark "=") then
    let lexemes ← captured do
      mark "="
      attributeValue g
    pure (path, .assigned lexemes)
  else pure (path, .absent)

/-- An attribute, with the mark of an inner one when that is asked for. -/
def attribute_ (isInner : Bool) : Reader Attribute := do
  let (body, lexemes) ← capture do
    mark "#"
    if isInner then mark "!"
    group .bracket (attributeBody g)
  pure ⟨isInner, body.1, body.2, Lexeme.spanOf lexemes⟩

/-- The attributes before a declaration. -/
def outerAttributes : Reader (List Attribute) := repeatWhile (isMark "#") (attribute_ g false)

/-- Whether an inner attribute stands ahead. -/
def isInnerAttribute (trees : List Tree) : Bool := isMark "#" trees && skipping 1 (isMark "!") trees

/-- The attributes at the start of a body. -/
def innerAttributes : Reader (List Attribute) := repeatWhile isInnerAttribute (attribute_ g true)

end Grammar

end ServiceDispatch.Source
