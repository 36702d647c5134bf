import ServiceDispatch.Source.Grammar.Attribute

/-!
# Reading types, paths and generic parameters
-/

namespace ServiceDispatch.Source

/-- One name of a path with its arguments. -/
structure Segment where
  /-- The name. -/
  name : Name
  /-- Its arguments. -/
  arguments : Arguments

/-- A path that is not qualified by a type. -/
structure TypePath where
  /-- What stands before the last name. -/
  qualifier : List Lexeme
  /-- The last name. -/
  last : Segment
  /-- Whether no name has arguments. -/
  isPlain : Bool

namespace TypePath

/-- The type that a path denotes. -/
def type (path : TypePath) : Ty := .named path.qualifier path.last.name path.last.arguments

end TypePath

/-- Whether arguments are absent or an empty list. -/
def Arguments.isEmpty : Arguments → Bool
  | .absent => true
  | .angle _ items _ _ => items.isEmpty

/-- Whether arguments are absent. -/
def Arguments.isAbsent : Arguments → Bool
  | .absent => true
  | _ => false

/-- The tokens of a type that may be the first of several bounds, brackets excepted. -/
def Ty.bound? : Ty → Option (List Lexeme)
  | .named qualifier name arguments => some (Ty.named qualifier name arguments).lexemes
  | .bound lexemes _ => some lexemes
  | _ => none

/-- What may stand in place of a bound besides traits and lifetimes. -/
structure BoundKinds where
  /-- The parameters that a type uses, `use<T>`. -/
  captures : Bool
  /-- Traits that hold for constants, `const T` and `[const] T`. -/
  constants : Bool

namespace BoundKinds

/-- Bounds of an object type. -/
def ofObject : BoundKinds := ⟨false, false⟩

/-- Bounds of a parameter. -/
def ofParameter : BoundKinds := ⟨false, true⟩

/-- Bounds of a type that is known by its traits alone. -/
def ofOpaque : BoundKinds := ⟨true, true⟩

/-- Whether another bound may stand ahead after a plus sign. -/
def isStart (kinds : BoundKinds) (trees : List Tree) : Bool :=
  isAnyWord trees || isMark "::" trees || isMark "?" trees || isLifetime trees ||
    isGroup .parenthesis trees || (kinds.constants && isGroup .bracket trees)

end BoundKinds

namespace Grammar

open Reader

variable (g : Grammar)

/-- Whether a list of arguments in parentheses stands ahead, with or without a separator. -/
def isRoundStart (trees : List Tree) : Bool :=
  isGroup .parenthesis trees ||
    (isMark "::" trees && skipping 2 (isGroup .parenthesis) trees)

/-- Whether generic parameters stand ahead and not a qualified type. -/
def isGenericsStart (trees : List Tree) : Bool :=
  let next := trees.drop 1
  let afterName := trees.drop 2
  isMark "<" trees &&
    (isMark ">" next || isMark "#" next || isWord "const" next ||
      ((isLifetime next || isName next) &&
        (isMark ">" afterName || isMark "," afterName ||
          (isMark ":" afterName && !isMark "::" afterName) || isMark "=" afterName)))

/-- Whether an empty list of bounds, or the end of a bounded thing, stands ahead. -/
def isClauseEnd (trees : List Tree) : Bool :=
  trees.isEmpty || isGroup .brace trees || isMark "," trees || isMark ";" trees ||
    (isMark ":" trees && !isMark "::" trees) || isMark "=" trees

/-- A declared result type without joined bounds, if an arrow stands ahead. -/
def resultWithoutPlus : Reader Unit := do
  if ← mark? "->" then discard (g.type false)

/-- A constant in angle brackets. -/
def constantArgument : Reader Unit := do
  if ← peek isLiteral then literal else g.block true

/-- Puts lifetimes before everything else, as lists in angle brackets are written. When that moves
the last item, a comma follows the one that is now last. -/
def lifetimesFirst {α : Type} (isLifetime : α → Bool) (items : List α) (trailing : Bool) :
    List α × Bool :=
  let others := items.filter fun item => !isLifetime item
  let movesLast := (items.getLast?.map isLifetime).getD false && !others.isEmpty
  (items.filter isLifetime ++ others, trailing || movesLast)

/-- Whether a type is a single name with or without arguments. -/
def isSingleName : Ty → Bool
  | .named qualifier _ _ => qualifier.isEmpty
  | _ => false

/-- One argument in angle brackets; answers also whether it is a lifetime. -/
def argument : Reader (Bool × Argument) := do
  let trees ← ahead
  if isLifetime trees && !skipping 1 (isMark "+") trees then
    let lexemes ← captured lifetime
    pure (true, .other lexemes)
  else if isLiteral trees || isGroup .brace trees then
    let lexemes ← captured (constantArgument g)
    pure (false, .other lexemes)
  else
    let (type?, lexemes) ← capture do
      let type ← g.type true
      if isSingleName type then
        if ← mark? "=" then
          let trees ← ahead
          if isLiteral trees || isGroup .brace trees then constantArgument g
          else discard (g.type true)
          pure none
        else if ← mark? ":" then
          discard (chained "+" (fun trees => isMark "," trees || isMark ">" trees) g.bound)
          pure none
        else pure (some type)
      else pure (some type)
    match type? with
    | some type => pure (false, .type type)
    | none => pure (false, .other lexemes)

/-- Arguments in angle brackets, with or without a separator before them. -/
def angleArguments : Reader Arguments :=
  rewritten Arguments.lexemes do
    let opening ← captured do
      discard (mark? "::")
      mark "<"
    let (items, trailing) ← separated "," (isMark ">") (argument g)
    match ← captured (mark ">") with
    | [closing] =>
      let (items, trailing) := lifetimesFirst Prod.fst items trailing
      pure (.angle opening (items.map Prod.snd) trailing closing)
    | _ => refuse

/-- Words that stand in a path and take no arguments. -/
def bareWords : List String := ["super", "self", "crate", "try"]

/-- One name of a path with its arguments. In an expression a separator stands before them. -/
def segment (inExpression : Bool) : Reader Segment := do
  let trees ← ahead
  if isOneOf bareWords trees then
    let name ← anyName
    pure ⟨name, .absent⟩
  else
    let name ← if isWord "Self" trees then anyName else name
    let trees ← ahead
    if (!inExpression && isMark "<" trees && !isMark "<=" trees && !isMark "<<=" trees) ||
        (isMark "::" trees && skipping 2 (isMark "<") trees) then
      let arguments ← angleArguments g
      pure ⟨name, arguments⟩
    else pure ⟨name, .absent⟩

/-- The names of a path from one on; the fuel bounds their number. -/
def segments (inExpression : Bool) :
    (fuel : Nat) → (qualifier : List Lexeme) → (isPlain : Bool) → Reader TypePath
  | 0, _, _ => refuse
  | fuel + 1, qualifier, isPlain => do
    let (found, lexemes) ← capture (segment g inExpression)
    let isPlain := isPlain && found.arguments.isAbsent
    let trees ← ahead
    if isMark "::" trees && !skipping 2 (isGroup .parenthesis) trees then
      let separator ← captured (mark "::")
      segments inExpression fuel (qualifier ++ lexemes ++ separator) isPlain
    else pure ⟨qualifier, found, isPlain⟩

/-- A path that no type qualifies. -/
def path (inExpression : Bool) : Reader TypePath := do
  let leading ← captured (discard (mark? "::"))
  let trees ← ahead
  segments g inExpression (trees.length + 1) leading true

/-- The names of a path after the type that qualifies it; the fuel bounds their number. -/
def qualifiedSegments (inExpression : Bool) : (fuel : Nat) → Reader Unit
  | 0 => refuse
  | fuel + 1 => do
    discard (segment g inExpression)
    if ← mark? "::" then qualifiedSegments inExpression fuel

/-- A path that a type in angle brackets may qualify; a qualified one is not looked into. -/
def qualifiedPath (inExpression : Bool) : Reader (Option TypePath) := do
  if ← mark? "<" then
    discard (g.type true)
    if ← word? "as" then discard (path g false)
    mark ">"
    mark "::"
    let trees ← ahead
    qualifiedSegments g inExpression (trees.length + 1)
    pure none
  else
    let found ← path g inExpression
    pure (some found)

/-- A path of a trait, whose last name may have arguments in parentheses and a result, as function
traits have. They take the place of an empty list in angle brackets, and a separator before them is
dropped. -/
def traitPath : Reader Name := do
  let found ← unrecorded (path g false)
  record (found.qualifier ++ [found.last.name.lexeme])
  if found.last.arguments.isEmpty && (← peek isRoundStart) then
    if ← peek (isMark "::") then unrecorded (mark "::")
    discard (group .parenthesis (commaList (g.type true)))
    resultWithoutPlus g
  else record found.last.arguments.lexemes
  pure found.last.name

/-- Bounds after a colon. A colon without bounds is dropped. -/
def boundsAfterColon {α : Type} (stop : List Tree → Bool) (item : Reader α) :
    Reader (List Lexeme) := do
  let (isEmpty, lexemes) ← capture do
    if ← mark? ":" then
      let (items, _) ← chained "+" stop item
      pure items.isEmpty
    else pure true
  pure (if isEmpty then [] else lexemes)

/-- Whether the end of a generic parameter stands ahead. -/
def isParamEnd (trees : List Tree) : Bool := trees.isEmpty || isMark "," trees || isMark ">" trees

/-- The default of a constant parameter. -/
def constantDefault : Reader Unit := do
  let trees ← ahead
  if isLiteral trees then literal
  else if isName trees then discard name
  else g.block true

/-- The attributes, name and bounds of a generic parameter, then its default. A parameter without a
name, where one may stand, has neither bounds nor a default. -/
def genericParts (mayBeBlank : Bool) : Reader Generic := do
  let attrs ← captured (discard (outerAttributes g))
  let trees ← ahead
  if isLifetime trees then
    let name ← captured lifetime
    let bounds ← boundsAfterColon isParamEnd lifetime
    pure ⟨true, attrs ++ name ++ bounds, []⟩
  else if isName trees then
    let name ← anyName
    let bounds ← boundsAfterColon (fun trees => isParamEnd trees || isMark "=" trees) g.bound
    let default ← captured do
      if ← mark? "=" then discard (g.type true)
    pure ⟨false, attrs ++ name.lexeme :: bounds, default⟩
  else if isWord "const" trees then
    let declared ← captured do
      word "const"
      discard name
      mark ":"
      discard (g.type true)
    let default ← captured do
      if ← mark? "=" then constantDefault g
    pure ⟨false, attrs ++ declared, default⟩
  else
    require mayBeBlank
    let blank ← captured (word "_")
    pure ⟨false, attrs ++ blank, []⟩

/-- A generic parameter. -/
def genericParam (mayBeBlank : Bool) : Reader Generic :=
  rewritten (fun param => param.declared ++ param.default) (genericParts g mayBeBlank)

/-- The generic parameters of a declaration, if any stand ahead. -/
def generics : Reader Generics :=
  rewritten Generics.lexemes do
    if ← peek (isMark "<") then
      let opening ← captured (mark "<")
      let (params, trailing) ← separated "," (isMark ">") (genericParam g true)
      let closing ← captured (mark ">")
      let (params, trailing) := lifetimesFirst Generic.isLifetime params trailing
      pure ⟨Lexeme.spanOf opening, params, trailing, Lexeme.spanOf closing⟩
    else pure .absent

/-- Parameters that a bound or a function type is for. -/
def binder : Reader Unit := do
  word "for"
  mark "<"
  discard (separated "," (isMark ">") (genericParam g false))
  mark ">"

/-- Parameters that a bound or a function type is for, if any stand ahead; answers whether they do.
-/
def binder? : Reader Bool := do
  if ← peek (isWord "for") then
    binder g
    pure true
  else pure false

/-- One condition of a declaration. -/
def wherePredicate : Reader Unit := do
  let trees ← ahead
  if isLifetime trees && skipping 1 (isMark ":") trees then
    lifetime
    mark ":"
    discard (chained "+" (fun trees => isClauseEnd trees || isMark ":" trees) lifetime)
  else
    discard (binder? g)
    discard (g.type true)
    mark ":"
    discard (chained "+" isClauseEnd g.bound)

/-- The conditions of a declaration, if any stand ahead. The keyword without conditions is dropped.
Generic parameters of the conditions are not allowed. -/
def whereClause : Reader (List Lexeme) :=
  rewritten id do
    let (isEmpty, lexemes) ← capture do
      if ← word? "where" then
        require (!(← peek isGenericsStart))
        let (predicates, _) ← chained "," isClauseEnd (wherePredicate g)
        pure predicates.isEmpty
      else pure true
    pure (if isEmpty then [] else lexemes)

/-- What a bound asks for: its modifiers and the path of a trait. Answers the last name of the path,
or nothing when the bound holds for constants, in which case it is kept as it stands. -/
def traitBound (kinds : BoundKinds) : Reader (Option String) := do
  let hasBinder ← binder? g
  let isConstant ←
    if ← peek (isGroup .bracket) then
      group .bracket (word "const")
      pure true
    else word? "const"
  require (kinds.constants || !isConstant)
  let isRelaxed ← mark? "?"
  require (!(hasBinder && isRelaxed))
  let name ← traitPath g
  pure (if isConstant then none else some name.text)

/-- One of the parameters that a type uses; answers whether it is a lifetime. -/
def capturedParam : Reader (Bool × List Lexeme) :=
  capture do
    let trees ← ahead
    require (isLifetime trees || isName trees || isWord "Self" trees)
    discard anyTree
    pure (isLifetime trees)

/-- The parameters that a type uses, lifetimes first. -/
def capturedParams : Reader Unit := do
  word "use"
  mark "<"
  let (params, trailing) ← unrecorded (separated "," (isMark ">") capturedParam)
  let (params, trailing) := lifetimesFirst Prod.fst params trailing
  record (Generics.commaSeparated trailing (params.map Prod.snd))
  mark ">"

/-- A bound of a type or a trait. -/
def boundRule (kinds : BoundKinds) : Reader Bound := do
  let (name?, lexemes) ← capture do
    let trees ← ahead
    if isLifetime trees then
      lifetime
      pure none
    else if isWord "use" trees then
      require kinds.captures
      capturedParams
      pure none
    else
      verbatimWhen Option.isNone do
        if isGroup .parenthesis trees then group .parenthesis (traitBound g kinds)
        else traitBound g kinds
  pure ⟨name?, lexemes⟩

/-- Whether a bound asks for a trait. -/
def isTraitBound (bound : Bound) : Bool :=
  match bound.lexemes with
  | [⟨.lifetime _, _⟩] => false
  | ⟨.word first, _⟩ :: _ => first ≠ "use"
  | _ => true

/-- Bounds that go on after plus signs, of which the last may stand without a bound; the fuel bounds
their number. -/
def moreBounds (kinds : BoundKinds) : Nat → Reader (List Bound)
  | 0 => pure []
  | fuel + 1 => do
    if ← mark? "+" then
      if ← peek kinds.isStart then
        let first ← boundRule g kinds
        let others ← moreBounds kinds fuel
        pure (first :: others)
      else pure []
    else pure []

/-- Bounds that go on after plus signs, where they are allowed. -/
def boundsTail (kinds : BoundKinds) (allowPlus : Bool) : Reader (List Bound) := do
  if allowPlus then
    let trees ← ahead
    moreBounds g kinds (trees.length + 1)
  else pure []

/-- Bounds that go on after plus signs, each with its bound. -/
def strictTail : Reader Unit :=
  discard <| repeatWhile (isMark "+") do
    mark "+"
    boundRule g .ofObject

/-- Bounds of which one at least is a trait. -/
def boundsWithTrait (kinds : BoundKinds) (allowPlus : Bool) : Reader Unit := do
  let first ← boundRule g kinds
  let others ← boundsTail g kinds allowPlus
  require ((first :: others).any isTraitBound)

/-- A type that is not looked into. -/
def opaqueType (reader : Reader Unit) : Reader Ty := do
  let lexemes ← captured reader
  pure (.other lexemes)

/-- The calling convention of a function, if one stands ahead. -/
def convention? : Reader Unit := do
  if ← word? "extern" then
    if ← peek isText then literal

/-- Whether a parameter with a name stands ahead. -/
def isNamedInput (isFirst : Bool) (trees : List Tree) : Bool :=
  (isName trees || isWord "_" trees || (isFirst && isWord "self" trees)) &&
    skipping 1 (isMark ":") trees && !skipping 1 (isMark "::") trees

/-- Whether further parameters of any number stand ahead. -/
def isVariadicInput (trees : List Tree) : Bool :=
  isMark "..." trees ||
    ((isName trees || isWord "_" trees) && skipping 1 (isMark ":") trees &&
      skipping 2 (isMark "...") trees)

/-- Whether the object that a method is called on stands ahead, taken as a variable. -/
def isMutableSelf (trees : List Tree) : Bool :=
  isWord "mut" trees && skipping 1 (isWord "self") trees

/-- A parameter of a function type. The first may be the object that a method is called on; one that
is taken as a variable is kept as it stands. -/
def functionInput (isFirst : Bool) : Reader Unit := do
  let trees ← ahead
  if isFirst && isMutableSelf trees then
    verbatim do
      word "mut"
      word "self"
      if (← peek (isMark ":")) && !(← peek (isMark "::")) then
        mark ":"
        discard (g.type true)
  else
    if isNamedInput isFirst trees then
      discard anyName
      mark ":"
    if isFirst && !isWord "self" trees && (← peek isMutableSelf) then
      word "mut"
      word "self"
    else discard (g.type true)

/-- Further parameters of any number of a function type. -/
def variadicInput : Reader Unit := do
  if !(← mark? "...") then
    discard anyName
    mark ":"
    mark "..."
  discard (mark? ",")

/-- The parameters of a function type; the fuel bounds their number. -/
def functionInputs : (fuel : Nat) → (isFirst : Bool) → Reader Unit
  | 0, _ => refuse
  | fuel + 1, isFirst => do
    if ← atEnd then pure ()
    else
      discard (outerAttributes g)
      if ← peek isVariadicInput then variadicInput
      else
        functionInput g isFirst
        if ← atEnd then pure ()
        else
          mark ","
          functionInputs fuel false

/-- A function type. -/
def functionType : Reader Unit := do
  discard (word? "unsafe")
  convention?
  word "fn"
  group .parenthesis do
    let trees ← ahead
    functionInputs g (trees.length + 1) true
  resultWithoutPlus g

/-- What stands inside the parentheses of a type. -/
inductive RoundContent where
  /-- Nothing. -/
  | nothing
  /-- A bound that does not hold by default. -/
  | relaxedBound (lexemes : List Lexeme)
  /-- Several types, or one with a comma. -/
  | several
  /-- One type. -/
  | single (inner : Ty)

/-- The inside of the parentheses of a type. -/
def roundContent : Reader RoundContent := do
  let trees ← ahead
  if trees.isEmpty then pure .nothing
  else if isMark "?" trees then
    let lexemes ← captured (discard (traitBound g .ofObject))
    pure (.relaxedBound lexemes)
  else
    let first ← g.type true
    if ← mark? "," then
      discard (commaList (g.type true))
      pure .several
    else pure (.single first)

/-- A type that starts with a parenthesis. A single bound in parentheses may be followed by others;
of several parentheses around it the outermost are kept. -/
def roundType (allowPlus : Bool) : Reader Ty :=
  rewritten Ty.lexemes do
    let ((content, span), lexemes) ← capture (groupAt .parenthesis (roundContent g))
    match content with
    | .nothing => pure (.unit span)
    | .several => pure (.other lexemes)
    | .relaxedBound bound =>
      let others ← captured (strictTail g)
      pure <|
        if others.isEmpty then .bound bound (some span)
        else .other (Lexeme.enclosed .parenthesis span bound ++ others)
    | .single inner =>
      let isJoined ← peek (isMark "+")
      match if allowPlus && isJoined then inner.bound? else none with
      | some bound =>
        let others ← captured (strictTail g)
        pure (.other (Lexeme.enclosed .parenthesis span bound ++ others))
      | none => pure (.paren inner span)

/-- A type that starts with a path: the path itself, a macro call, or several bounds. -/
def pathType (allowPlus : Bool) : Reader Ty := do
  let (type?, lexemes) ← capture do
    match ← qualifiedPath g false with
    | none => pure none
    | some path =>
      if path.isPlain && (← peek isBang) then
        discard macroCall
        pure none
      else if allowPlus && (← peek (isMark "+")) then
        discard (boundsTail g .ofObject true)
        pure none
      else pure (some path.type)
  pure (type?.getD (.other lexemes))

/-- A reference type. -/
def referenceType : Reader Ty := do
  let lead ← captured do
    mark "&"
    lifetime?
  let mutable ← word? "mut"
  let target ← g.type false
  pure (.reference lead mutable target)

/-- A type for some parameters, which are dropped before a macro call. -/
def binderType (allowPlus : Bool) : Reader Ty :=
  rewritten Ty.lexemes do
    let params ← captured (binder g)
    let trees ← ahead
    if isOneOf ["fn", "unsafe", "extern"] trees then
      let function ← captured (functionType g)
      pure (.other (params ++ function))
    else
      require (isPathWord trees)
      let (path, lexemes) ← capture (path g false)
      if path.isPlain && (← peek isBang) then
        let call ← captured (discard macroCall)
        pure (.other (lexemes ++ call))
      else
        let others ← captured (discard (boundsTail g .ofObject allowPlus))
        pure <|
          if others.isEmpty then .bound (params ++ lexemes) none
          else .other (params ++ lexemes ++ others)

/-- An object type. One with a star is kept as it stands. -/
def objectType (allowPlus : Bool) : Reader Ty :=
  opaqueType <| discard <| verbatimWhen id do
    word "dyn"
    let isStarred ← mark? "*"
    boundsWithTrait g .ofObject allowPlus
    pure isStarred

/-- An array or a slice type. -/
def bracketType : Reader Ty :=
  opaqueType <| group .bracket do
    discard (g.type true)
    if ← mark? ";" then discard (g.expression true)

/-- A pointer type. -/
def pointerType : Reader Ty :=
  opaqueType do
    mark "*"
    if !(← word? "const") then word "mut"
    discard (g.type false)

/-- A type. -/
def typeRule (allowPlus : Bool) : Reader Ty := do
  let trees ← ahead
  if isGroup .parenthesis trees then roundType g allowPlus
  else if isWord "for" trees then binderType g allowPlus
  else if isOneOf ["fn", "unsafe", "extern"] trees then opaqueType (functionType g)
  else if isPathWord trees || isMark "::" trees || isMark "<" trees then pathType g allowPlus
  else if isWord "dyn" trees then objectType g allowPlus
  else if isGroup .bracket trees then bracketType g
  else if isMark "*" trees then pointerType g
  else if isMark "&" trees then referenceType g
  else if isMark "!" trees then opaqueType (mark "!")
  else if isWord "impl" trees then
    let lexemes ← captured do
      word "impl"
      boundsWithTrait g .ofOpaque allowPlus
    pure (.implTrait lexemes)
  else if isWord "_" trees then opaqueType (word "_")
  else if isLifetime trees then opaqueType (boundsWithTrait g .ofObject true)
  else refuse

end Grammar

end ServiceDispatch.Source
