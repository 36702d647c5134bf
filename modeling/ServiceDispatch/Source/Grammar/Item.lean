import ServiceDispatch.Source.Grammar.Method

/-!
# Reading traits and implementation blocks
-/

namespace ServiceDispatch.Source

namespace Grammar

open Reader

variable (g : Grammar)

/-- What is asked about a constant that was read. -/
structure ConstantShape where
  /-- Whether it has a value. -/
  hasValue : Bool
  /-- Whether it has generic parameters or conditions. -/
  isGeneric : Bool

/-- A constant from its keyword on. -/
def constantItem : Reader ConstantShape := do
  word "const"
  if ← peek (isWord "_") then discard anyName else discard name
  let hasParams ← peek (isMark "<")
  discard (generics g)
  mark ":"
  discard (g.type true)
  let hasValue ← mark? "="
  if hasValue then discard (g.expression true)
  let hasConditions ← peek (isWord "where")
  discard (whereClause g)
  mark ";"
  pure ⟨hasValue, hasParams || hasConditions⟩

/-- Where the conditions of a type declaration may stand. -/
structure ConditionPlaces where
  /-- Before the definition. -/
  before : Bool
  /-- After the definition. -/
  after : Bool

/-- What is asked about a type declaration that was read. -/
structure TypeShape where
  /-- Whether a colon follows its name, with bounds or without. -/
  hasColon : Bool
  /-- Whether it is defined. -/
  hasDefinition : Bool

/-- A type declaration from its keyword on. A colon without bounds is dropped. -/
def typeItem (places : ConditionPlaces) : Reader TypeShape := do
  word "type"
  discard name
  discard (generics g)
  let hasColon ← peek (isMark ":")
  let bounds ← unrecorded
    (boundsAfterColon
      (fun trees => isWord "where" trees || isMark "=" trees || isMark ";" trees) g.bound)
  record bounds
  let isEarly ← peek fun trees => places.before && isWord "where" trees
  if isEarly then discard (whereClause g)
  let hasDefinition ← mark? "="
  if hasDefinition then discard (g.type true)
  if places.after && !isEarly then discard (whereClause g)
  mark ";"
  pure ⟨hasColon, hasDefinition⟩

/-- A macro call in place of an item. -/
def macroItem : Reader Unit := do
  discard plainPath
  let delimiter ← macroCall
  if delimiter ≠ .brace then mark ";"

/-- Whether a macro call in place of an item may stand ahead. -/
def isMacroStart (trees : List Tree) : Bool :=
  isName trees || isOneOf ["self", "super", "crate"] trees || isMark "::" trees

/-- What was read of a trait item. -/
inductive TraitItemShape where
  /-- A method. -/
  | method (method : MethodItem)
  /-- A constant or an associated type. -/
  | declaration
  /-- A macro call. -/
  | macroCall
  /-- An item that is kept as it stands. -/
  | verbatim

/-- Whether an item is kept as it stands. -/
def TraitItemShape.isVerbatim : TraitItemShape → Bool
  | verbatim => true
  | _ => false

/-- An item of a trait. One that a trait cannot have is kept as it stands. -/
def traitItem : Reader TraitItem := do
  let (shape, lexemes) ← capture <| verbatimWhen TraitItemShape.isVerbatim do
    let attributes ← outerAttributes g
    let isVisible ← visibility
    let isDefault ← word? "default"
    let trees ← ahead
    let shape ←
      if isMethodHead trees then do
        let found ← method g attributes []
        pure (TraitItemShape.method found)
      else if isWord "const" trees then do
        let found ← constantItem g
        pure (if found.isGeneric then .verbatim else .declaration)
      else if isWord "type" trees then do
        discard (typeItem g ⟨false, true⟩)
        pure .declaration
      else do
        require (!isVisible && !isDefault && isMacroStart trees)
        macroItem
        pure .macroCall
    pure (if isVisible || isDefault then .verbatim else shape)
  pure <|
    match shape with
    | .method found => .method found
    | .declaration => .declaration lexemes
    | _ => .uninterpreted lexemes

/-- The bounds of a trait after its colon. -/
def supertraits : Reader (List Bound × Bool) := do
  if ← mark? ":" then
    separated "+" (fun trees => isWord "where" trees || isGroup .brace trees)
      (boundRule g .ofParameter)
  else pure ([], false)

/-- A trait declaration. -/
def trait : Reader TraitDecl :=
  rewritten TraitDecl.lexemes do
    let attributes ← outerAttributes g
    let modifiers ← captured do
      discard visibility
      discard (word? "unsafe")
      discard (word? "auto")
      word "trait"
    let name ← name
    let generics ← generics g
    let (supertraits, trailingPlus) ← supertraits g
    let conditions ← whereClause g
    let (inner, items) ← group .brace do
      let inner ← innerAttributes g
      let items ← toEnd (traitItem g)
      pure (inner, items)
    pure
      { attributes := attributes ++ inner
        modifiers, name, generics, supertraits, trailingPlus, conditions, items }

/-- What was read of an item of an implementation block. -/
inductive ImplItemShape where
  /-- A method with its body. -/
  | method (method : MethodItem)
  /-- An item of any other kind. -/
  | other
  /-- An item that is kept as it stands. -/
  | verbatim

/-- Whether an item is kept as it stands. -/
def ImplItemShape.isVerbatim : ImplItemShape → Bool
  | verbatim => true
  | _ => false

/-- An item of an implementation block. One that such a block cannot have, such as a method without
a body, is kept as it stands. -/
def implItem : Reader ImplItem := do
  let (shape, lexemes) ← capture <| verbatimWhen ImplItemShape.isVerbatim do
    let attributes ← outerAttributes g
    let ((isVisible, isDefault), modifiers) ← capture do
      let isVisible ← visibility
      let trees ← ahead
      let isDefault := isWord "default" trees && !skipping 1 (isMark "!") trees
      if isDefault then word "default"
      pure (isVisible, isDefault)
    let trees ← ahead
    if isMethodHead trees then
      let found ← method g attributes modifiers
      pure (if found.body.isSome then ImplItemShape.method found else .verbatim)
    else if isWord "const" trees then
      let found ← constantItem g
      pure (if found.hasValue && !found.isGeneric then .other else .verbatim)
    else if isWord "type" trees then
      let found ← typeItem g ⟨false, true⟩
      pure (if found.hasDefinition && !found.hasColon then .other else .verbatim)
    else
      require (!isVisible && !isDefault && isMacroStart trees)
      macroItem
      pure .other
  pure <|
    match shape with
    | .method found => .method found
    | _ => .other lexemes

/-- What an implementation block is about. -/
structure ImplSubject where
  /-- The trait that it implements with the words around it; nothing for an inherent block. -/
  traitPart : Option (List Lexeme)
  /-- The type it belongs to. -/
  selfType : List Lexeme
  /-- Whether the trait, if there is one, is given by a path. -/
  isNamed : Bool

/-- Whether a type is given by a path. -/
def isNamedType : Ty → Bool
  | .named _ _ _ => true
  | _ => false

/-- The trait and the type of a block. Only a trait can be refused to a type. -/
def implSubject : Reader ImplSubject := do
  let trees ← ahead
  let isNegative := isMark "!" trees && !skipping 1 (isGroup .brace) trees
  let (first, lexemes) ← capture do
    if isNegative then mark "!"
    g.type true
  if ← peek (isWord "for") then
    let word_ ← captured (word "for")
    let selfType ← captured (discard (g.type true))
    pure ⟨some (lexemes ++ word_), selfType, isNamedType first⟩
  else
    require (!isNegative)
    pure ⟨none, lexemes, true⟩

/-- The mark of a block whose methods are constant, if it stands ahead; answers whether it does. -/
def constantMark? : Reader Bool := do
  let trees ← ahead
  if isWord "const" trees || (isMark "?" trees && skipping 1 (isWord "const") trees) then
    discard (mark? "?")
    word "const"
    pure true
  else pure false

/-- An implementation block; nothing for one that only later stages of compilation can tell. -/
def implBlock? : Reader (Option ImplBlock) :=
  rewritten (fun found => (found.map ImplBlock.lexemes).getD []) do
    let attributes ← outerAttributes g
    let isVisible ← visibility
    let modifiers ← captured do
      discard (word? "default")
      discard (word? "unsafe")
      word "impl"
    let generics ←
      if ← peek isGenericsStart then generics g else pure .absent
    let isConstant ← constantMark?
    let subject ← implSubject g
    let conditions ← whereClause g
    let (inner, items) ← group .brace do
      let inner ← innerAttributes g
      let items ← toEnd (implItem g)
      pure (inner, items)
    if isVisible || isConstant || !subject.isNamed then pure none
    else
      pure <| some
        { attributes := attributes ++ inner
          modifiers, generics, conditions, items
          traitPart := subject.traitPart
          selfType := subject.selfType }

/-- An implementation block. -/
def implBlock : Reader ImplBlock := do
  match ← implBlock? g with
  | some block => pure block
  | none => refuse

end Grammar

end ServiceDispatch.Source
