import ServiceDispatch.Source.Grammar.Statement

/-!
# Reading methods
-/

namespace ServiceDispatch.Source

namespace Grammar

open Reader

variable (g : Grammar)

/-- The restriction of a visibility, where it is one and not the start of a type. -/
def visibilityRestriction : Reader Unit := do
  match ← ahead with
  | .group .parenthesis inner _ :: _ =>
    if isOneOf ["crate", "self", "super"] inner then
      if inner.length = 1 then discard anyTree
    else if isWord "in" inner then
      group .parenthesis do
        word "in"
        discard plainPath
  | _ => pure ()

/-- A visibility, if one stands ahead; answers whether it does. -/
def visibility : Reader Bool := do
  if ← word? "pub" then
    visibilityRestriction
    pure true
  else pure false

/-- Words that stand before `fn`, in order. -/
def methodQualifiers : Reader Unit := do
  discard (word? "const")
  discard (word? "async")
  discard (word? "unsafe")
  convention?

/-- Whether the head of a method stands ahead. -/
def isMethodHead (trees : List Tree) : Bool :=
  match methodQualifiers ⟨trees, []⟩ with
  | some (_, after) => isWord "fn" after.rest
  | none => false

/-- The object that a method is called on. -/
def receiver (attributes : List Attribute) : Reader Receiver := do
  let (parts, written) ← capture do
    let byReference ← mark? "&"
    if byReference then lifetime?
    let mutable ← word? "mut"
    word "self"
    require (!(← peek (isMark "::")))
    let typed ← if byReference then pure false else mark? ":"
    if typed then discard (g.type true)
    pure (byReference, mutable, typed)
  pure ⟨attributes, parts.1, parts.2.1, parts.2.2, written⟩

/-- A parameter of a method, or a trailing one of any number. -/
inductive InputOrVariadic where
  /-- A parameter. -/
  | input (input : Input)
  /-- Further parameters of any number. -/
  | variadic

/-- A typed parameter, the trailing one included. A type that stands without a pattern is
anonymous. -/
def typedInput (attributes : List Attribute) : Reader InputOrVariadic := do
  let trees ← ahead
  if isName trees && skipping 1 (isMark "<") trees then
    let place := (trees.head?.map Tree.span).getD .nowhere
    let type ← g.type true
    pure (.input (.typed ⟨attributes, .other [⟨.word "_", place⟩], type⟩))
  else
    let (pattern, _) ← g.pattern
    mark ":"
    if ← mark? "..." then pure .variadic
    else
      let type ← g.type true
      pure (.input (.typed ⟨attributes, pattern, type⟩))

/-- A parameter of a method. -/
def methodInput : Reader InputOrVariadic := do
  let attributes ← outerAttributes g
  if ← mark? "..." then pure .variadic
  else
    match ← attempt (receiver g attributes) with
    | some found => pure (.input (.receiver found))
    | none => typedInput g attributes

/-- Whether a parameter is the object that a method is called on. -/
def isReceiver : Input → Bool
  | .receiver _ => true
  | .typed _ => false

/-- The parameters of a method: the parameters, whether a comma follows the last, and the tokens of
trailing ones of any number. Only the first may be a receiver. -/
def methodInputs : (fuel : Nat) → Reader (List Input × Bool × List Lexeme)
  | 0 => refuse
  | fuel + 1 => do
    if ← atEnd then pure ([], true, [])
    else
      let (found, lexemes) ← capture (methodInput g)
      match found with
      | .variadic =>
        let mark_ ← captured (discard (mark? ","))
        require (← atEnd)
        pure ([], true, lexemes ++ mark_)
      | .input input =>
        if ← atEnd then pure ([input], false, [])
        else
          mark ","
          let (others, trailing, variadic) ← methodInputs fuel
          require (!(others.any isReceiver))
          pure (input :: others, trailing, variadic)

/-- The parameter list of a method. -/
def inputList : Reader (List Input × Bool × List Lexeme) := do
  let trees ← ahead
  let (inputs, trailing, variadic) ← methodInputs g (trees.length + 1)
  pure (inputs, trailing && !inputs.isEmpty, variadic)

/-- Everything of a method before its body, its qualifiers by the given reader. -/
def methodHead (qualifiers : Reader Unit) : Reader MethodHead :=
  rewritten MethodHead.lexemes do
    let qualifiers ← captured do
      qualifiers
      word "fn"
    let name ← name
    let generics ← generics g
    let ((inputs, trailing, variadic), inputsSpan) ← groupAt .parenthesis (inputList g)
    let (output, lexemes) ← capture do
      if ← mark? "->" then
        let type ← g.type true
        pure (some type)
      else pure none
    let conditions ← whereClause g
    pure
      { qualifiers, name, generics, inputsSpan, inputs, trailing, variadic
        arrow := (lexemes.head?.map Lexeme.span).getD .nowhere
        output, conditions }

/-- The inside of a body: its inner attributes, then its statements as tokens. -/
def body : Reader (List Attribute × List Lexeme) := do
  let inner ← innerAttributes g
  let statements ← captured (allStatements g)
  pure (inner, statements)

/-- A method after its attributes and modifiers. -/
def method (attributes : List Attribute) (modifiers : List Lexeme) : Reader MethodItem := do
  let head ← methodHead g methodQualifiers
  if ← mark? ";" then pure ⟨attributes, modifiers, head, none⟩
  else
    let ((inner, statements), span) ← groupAt .brace (body g)
    pure ⟨attributes ++ inner, modifiers, head, some (statements, span)⟩

end Grammar

end ServiceDispatch.Source
