import ServiceDispatch.Source.Grammar.Item

/-!
# Reading declarations inside bodies

A declaration is checked and written again like everything else in a body. One that is well formed
but without meaning, such as a function without a body, is kept as it stands, attributes included.
The readers answer whether that is so.
-/

namespace ServiceDispatch.Source

namespace Grammar

open Reader

variable (g : Grammar)

/-- A field with a name. One without a name may have fields in place of a type. -/
def namedField (fields : Reader Unit) : Reader Unit := do
  discard (outerAttributes g)
  discard visibility
  let isBlank ← word? "_"
  if !isBlank then discard name
  mark ":"
  let trees ← ahead
  let hasFields := isBlank &&
    (isWord "struct" trees || (isWord "union" trees && skipping 1 (isGroup .brace) trees))
  if hasFields then
    verbatim do
      discard anyName
      fields
  else discard (g.type true)

/-- Fields with names and their brackets; the fuel bounds their nesting. -/
def fieldsWithin : (fuel : Nat) → Reader Unit
  | 0 => refuse
  | fuel + 1 => discard (group .brace (commaList (namedField g (fieldsWithin fuel))))

/-- Fields with names and their brackets. -/
def namedFields : Reader Unit := do
  let trees ← ahead
  fieldsWithin g (Tree.sizeOfAll trees + 1)

/-- Fields without names and their brackets. -/
def tupleFields : Reader Unit :=
  discard <| group .parenthesis <| commaList do
    discard (outerAttributes g)
    discard visibility
    g.type true

/-- A structure after its visibility. The conditions of one without names follow its fields. -/
def structure_ : Reader Unit := do
  word "struct"
  discard name
  discard (generics g)
  let hasConditions ← peek (isWord "where")
  discard (whereClause g)
  let trees ← ahead
  if isGroup .brace trees then namedFields g
  else
    if !hasConditions && isGroup .parenthesis trees then
      tupleFields g
      discard (whereClause g)
    mark ";"

/-- A case of an enumeration. Its visibility is dropped. -/
def variant : Reader Unit := do
  discard (outerAttributes g)
  discard (unrecorded visibility)
  discard name
  let trees ← ahead
  if isGroup .brace trees then namedFields g
  else if isGroup .parenthesis trees then tupleFields g
  if ← mark? "=" then discard (g.expression true)

/-- An enumeration after its visibility. -/
def enumeration : Reader Unit := do
  word "enum"
  discard name
  discard (generics g)
  discard (whereClause g)
  discard (group .brace (commaList (variant g)))

/-- A union after its visibility. -/
def union : Reader Unit := do
  word "union"
  discard name
  discard (generics g)
  discard (whereClause g)
  namedFields g

/-- Whether a name that something is imported under stands ahead. -/
def isImportName (trees : List Tree) : Bool := isName trees || isWord "_" trees

/-- What an import names. With `mayBeRooted` a part of a group may start at the root of all names;
answers whether one does. The fuel bounds the length and the nesting. -/
def importTree : (fuel : Nat) → (mayBeRooted : Bool) → Reader Bool
  | 0, _ => refuse
  | fuel + 1, mayBeRooted => do
    let trees ← ahead
    if isName trees || isOneOf ["self", "super", "crate", "try"] trees then
      discard anyName
      if ← mark? "::" then importTree fuel false
      else
        if ← word? "as" then
          require (← peek isImportName)
          discard anyName
        pure false
    else if isMark "*" trees then
      mark "*"
      pure false
    else
      let (parts, _) ← group .brace <| commaList do
        let isRooted ← if mayBeRooted then mark? "::" else pure false
        let holdsRooted ← importTree fuel (mayBeRooted && !isRooted)
        pure (isRooted || holdsRooted)
      pure (parts.any id)

/-- An import after its visibility. -/
def importItem : Reader Bool := do
  word "use"
  let isRooted ← mark? "::"
  let trees ← ahead
  let isVerbatim ← importTree (Tree.sizeOfAll trees + 1) (!isRooted)
  mark ";"
  pure isVerbatim

/-- The import of a library after its visibility. -/
def libraryImport : Reader Unit := do
  word "extern"
  word "crate"
  if ← peek (isWord "self") then discard anyName else discard name
  if ← word? "as" then
    require (← peek isImportName)
    discard anyName
  mark ";"

/-- Words that stand before `fn` in a foreign block, in order; answers whether the function is
declared safe. -/
def foreignQualifiers : Reader Bool := do
  discard (word? "const")
  discard (word? "async")
  let isUnsafe ← word? "unsafe"
  let isSafe ← if isUnsafe then pure false else word? "safe"
  convention?
  pure isSafe

/-- Whether the head of a foreign function stands ahead, and whether it is declared safe. -/
def foreignHead? (trees : List Tree) : Option Bool :=
  match foreignQualifiers ⟨trees, []⟩ with
  | some (isSafe, after) => if isWord "fn" after.rest then some isSafe else none
  | none => none

/-- A foreign function after its visibility. -/
def foreignFunction (isSafe : Bool) : Reader Bool := do
  discard (methodHead g (discard foreignQualifiers))
  let hasBody ← peek (isGroup .brace)
  if hasBody then g.block true else mark ";"
  pure (isSafe || hasBody)

/-- A foreign variable after its visibility. -/
def foreignVariable : Reader Bool := do
  let isUnsafe ← word? "unsafe"
  let isSafe ← if isUnsafe then pure false else word? "safe"
  word "static"
  discard (word? "mut")
  discard name
  mark ":"
  discard (g.type true)
  let hasValue ← mark? "="
  if hasValue then discard (g.expression true)
  mark ";"
  pure (isUnsafe || isSafe || hasValue)

/-- An item of a foreign block. -/
def foreignItem : Reader Unit :=
  discard <| verbatimWhen id do
    discard (outerAttributes g)
    let isVisible ← visibility
    let trees ← ahead
    match foreignHead? trees with
    | some isSafe => foreignFunction g isSafe
    | none =>
      if isWord "static" trees ||
          (isOneOf ["unsafe", "safe"] trees && skipping 1 (isWord "static") trees) then
        foreignVariable g
      else if isWord "type" trees then
        let found ← typeItem g ⟨true, true⟩
        pure (found.hasColon || found.hasDefinition)
      else
        require (!isVisible && isMacroStart trees)
        macroItem
        pure false

/-- A foreign block. -/
def foreignBlock : Reader Unit := do
  discard (word? "unsafe")
  require (← peek (isWord "extern"))
  convention?
  group .brace do
    discard (innerAttributes g)
    discard (toEnd (foreignItem g))

/-- A function with its attributes and its visibility. -/
def function : Reader Bool := do
  let found ← rewritten MethodItem.lexemes do
    let attributes ← outerAttributes g
    let modifiers ← captured (discard visibility)
    method g attributes modifiers
  pure found.body.isNone

/-- A variable of the whole program after its visibility. -/
def variable_ : Reader Bool := do
  word "static"
  discard (word? "mut")
  discard name
  let isTyped ← mark? ":"
  if isTyped then discard (g.type true)
  let hasValue ← if isTyped then mark? "=" else do
    mark "="
    pure true
  if hasValue then discard (g.expression true)
  mark ";"
  pure (!(isTyped && hasValue))

/-- A module after its visibility. -/
def module_ : Reader Unit := do
  discard (word? "unsafe")
  word "mod"
  if ← peek (isWord "try") then discard anyName else discard name
  if !(← mark? ";") then
    group .brace do
      discard (innerAttributes g)
      discard (toEnd g.declaration)

/-- Another name for several traits, with its attributes. -/
def traitAlias : Reader Unit := do
  let isEnd (trees : List Tree) : Bool := isWord "where" trees || isMark ";" trees
  discard (outerAttributes g)
  discard visibility
  word "trait"
  discard name
  discard (generics g)
  mark "="
  discard (separated "+" isEnd (boundRule g .ofObject))
  discard (whereClause g)
  mark ";"

/-- A macro that is declared by its name and its body, after its visibility. -/
def macroDefinition : Reader Unit := do
  word "macro"
  discard name
  if ← peek (isGroup .parenthesis) then discard anyTree
  require (← peek (isGroup .brace))
  discard anyTree

/-- A macro call in place of a declaration, which may declare a name. -/
def macroDeclaration : Reader Unit := do
  discard plainPath
  mark "!"
  if ← peek (isWord "try") then discard anyName
  else if ← peek isName then discard anyName
  let delimiter ← anyGroup
  if delimiter ≠ .brace then mark ";"

/-- Whether a declaration is of a trait, by its first words after the visibility. -/
def isTraitStart (trees : List Tree) : Bool :=
  let next := trees.drop 1
  isWord "trait" trees || (isWord "auto" trees && isWord "trait" next) ||
    (isWord "unsafe" trees &&
      (isWord "trait" next || (isWord "auto" next && skipping 1 (isWord "trait") next)))

/-- Whether a declaration is an implementation block, by its first words after the visibility. -/
def isImplStart (trees : List Tree) : Bool :=
  let next := trees.drop 1
  isWord "impl" trees || (isWord "unsafe" trees && isWord "impl" next) ||
    (isWord "default" trees && !isMark "!" next)

/-- Whether a declaration is a foreign block, by its first words. -/
def isForeignStart (trees : List Tree) : Bool :=
  let next := trees.drop 1
  (isWord "extern" trees &&
      (isGroup .brace next || (isText next && skipping 1 (isGroup .brace) next))) ||
    (isWord "unsafe" trees && isWord "extern" next)

/-- A declaration of any other kind after its attributes and its visibility. -/
def simpleDeclaration (isVisible : Bool) : Reader Bool := do
  let trees ← ahead
  let next := trees.drop 1
  if isWord "use" trees then importItem
  else if isWord "static" trees then variable_ g
  else if isWord "const" trees then
    let found ← constantItem g
    pure (found.isGeneric || !found.hasValue)
  else if isWord "type" trees then
    let found ← typeItem g ⟨true, false⟩
    pure (found.hasColon || !found.hasDefinition)
  else if isWord "macro" trees then
    macroDefinition
    pure true
  else
    if isForeignStart trees then
      require (!isVisible)
      foreignBlock g
    else if isWord "extern" trees then libraryImport
    else if isWord "mod" trees || (isWord "unsafe" trees && isWord "mod" next) then module_ g
    else if isWord "struct" trees then structure_ g
    else if isWord "enum" trees then enumeration g
    else if isWord "union" trees && isName next then union g
    else
      require (!isVisible && isMacroStart trees)
      macroDeclaration
    pure false

/-- A declaration inside a body with its attributes. -/
def declarationRule : Reader Unit :=
  discard <| verbatimWhen id do
    let start ← foresee do
      discard (outerAttributes g)
      discard visibility
      ahead
    if isMethodHead start then function g
    else if isTraitStart start then
      match ← attempt (trait g) with
      | some _ => pure ()
      | none => traitAlias g
      pure false
    else if isImplStart start then
      let block? ← implBlock? g
      pure block?.isNone
    else
      discard (outerAttributes g)
      let isVisible ← visibility
      simpleDeclaration g isVisible

end Grammar

end ServiceDispatch.Source
