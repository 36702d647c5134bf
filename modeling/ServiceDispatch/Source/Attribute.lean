import ServiceDispatch.Source.Ty

/-!
# Attributes

An attribute names a path and may carry arguments. Markers are attributes whose path is one name.
-/

namespace ServiceDispatch.Source

/-- A path of plain names. -/
structure NamePath where
  /-- Where a separator stands before the first name, if one does. -/
  leading : Option Span
  /-- The names in order. -/
  names : List Name
  deriving DecidableEq, Repr

namespace NamePath

/-- Whether a path is the given single name. -/
def isName (path : NamePath) (text : String) : Bool :=
  path.leading.isNone && path.names.map Name.text = [text]

/-- Whether the last name of a path is the given one. -/
def endsIn (path : NamePath) (text : String) : Bool :=
  path.names.getLast?.map Name.text = some text

/-- Names with separators between them. -/
def namesLexemes : List Name → List Lexeme
  | [] => []
  | [name] => [name.lexeme]
  | name :: rest => name.lexeme :: Lexeme.ofMark "::" .nowhere ++ namesLexemes rest

/-- The tokens of a path. -/
def lexemes (path : NamePath) : List Lexeme :=
  ((path.leading.map (Lexeme.ofMark "::")).getD []) ++ namesLexemes path.names

/-- A path as messages show it. -/
def display (path : NamePath) : String := Token.spaced (Lexeme.tokens path.lexemes)

end NamePath

/-- What an attribute carries besides its path. -/
inductive AttributeArguments where
  /-- Nothing. -/
  | absent
  /-- Trees between brackets. -/
  | list (delimiter : Delimiter) (trees : List Tree) (span : Span)
  /-- An equals sign and a value. -/
  | assigned (lexemes : List Lexeme)

/-- The tokens of what an attribute carries. -/
def AttributeArguments.lexemes : AttributeArguments → List Lexeme
  | absent => []
  | list delimiter trees span => Lexeme.enclosed delimiter span (Tree.lexemesOf trees)
  | assigned lexemes => lexemes

/-- An attribute. -/
structure Attribute where
  /-- Whether it belongs to what encloses it. -/
  isInner : Bool
  /-- Its path. -/
  path : NamePath
  /-- What it carries. -/
  arguments : AttributeArguments
  /-- The stretch of the whole attribute. -/
  span : Span

namespace Attribute

/-- The tokens of an attribute. -/
def lexemes (attr : Attribute) : List Lexeme :=
  ⟨.mark '#' false, attr.span⟩ ::
    (if attr.isInner then [⟨.mark '!' false, attr.span⟩] else []) ++
    Lexeme.enclosed .bracket attr.span (attr.path.lexemes ++ attr.arguments.lexemes)

/-- Whether an attribute is the marker of the given name. -/
def isMarker (name : String) (attr : Attribute) : Bool := attr.path.isName name

/-- The tokens of the attributes that stand before a declaration. -/
def outerLexemes (attrs : List Attribute) : List Lexeme :=
  (attrs.filter fun attr => !attr.isInner).flatMap lexemes

/-- The tokens of the attributes that stand inside a declaration. -/
def innerLexemes (attrs : List Attribute) : List Lexeme :=
  (attrs.filter Attribute.isInner).flatMap lexemes

end Attribute

end ServiceDispatch.Source
