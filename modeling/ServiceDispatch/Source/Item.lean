import ServiceDispatch.Source.Attribute

/-!
# Declarations

Traits, implementation blocks and their methods, kept as far as contracts need to look into them.
Every declaration can be written again; what is kept as tokens is written as it was read.
-/

namespace ServiceDispatch.Source

/-- One generic parameter. -/
structure Generic where
  /-- Whether it is a lifetime. -/
  isLifetime : Bool
  /-- Its attributes, name and bounds. -/
  declared : List Lexeme
  /-- Its default with the equals sign, or nothing. -/
  default : List Lexeme
  deriving DecidableEq, Repr

/-- The generic parameters of a declaration. -/
structure Generics where
  /-- Where the opening bracket stands. -/
  opening : Span
  /-- Parameters, lifetimes first. -/
  params : List Generic
  /-- Whether a comma follows the last. -/
  trailing : Bool
  /-- Where the closing bracket stands. -/
  closing : Span
  deriving DecidableEq, Repr

namespace Generics

/-- No generic parameters. -/
def absent : Generics := ⟨.nowhere, [], false, .nowhere⟩

/-- Sequences of tokens with commas between them. -/
def commaSeparated (trailing : Bool) : List (List Lexeme) → List Lexeme
  | [] => []
  | [item] => item ++ (if trailing then [comma] else [])
  | item :: rest => item ++ comma :: commaSeparated trailing rest

/-- Parameters in angle brackets; nothing is written without parameters. -/
def bracketed (generics : Generics) (params : List (List Lexeme)) : List Lexeme :=
  if params.isEmpty then []
  else
    ⟨.mark '<' false, generics.opening⟩ :: commaSeparated generics.trailing params ++
      [⟨.mark '>' false, generics.closing⟩]

/-- The tokens of generic parameters as declared. -/
def lexemes (generics : Generics) : List Lexeme :=
  generics.bracketed (generics.params.map fun param => param.declared ++ param.default)

/-- The tokens of generic parameters without their defaults, as another block for the same type
declares them. -/
def withoutDefaults (generics : Generics) : List Lexeme :=
  generics.bracketed (generics.params.map Generic.declared)

/-- Whether there is any parameter. -/
def isGeneric (generics : Generics) : Bool := !generics.params.isEmpty

end Generics

/-- The pattern of a parameter. -/
inductive Pattern where
  /-- A plain identifier. -/
  | name (mutable : Bool) (name : Name)
  /-- Any other pattern. -/
  | other (lexemes : List Lexeme)
  deriving DecidableEq, Repr

/-- The tokens of a pattern. -/
def Pattern.lexemes : Pattern → List Lexeme
  | .name mutable ident => (if mutable then [⟨.word "mut", ident.span⟩] else []) ++ [ident.lexeme]
  | .other lexemes => lexemes

/-- How a method takes the object it is called on. -/
structure Receiver where
  /-- Its attributes. -/
  attributes : List Attribute
  /-- Whether it is taken by reference. -/
  byReference : Bool
  /-- Whether it is marked `mut`. -/
  mutable : Bool
  /-- Whether its type is written out. -/
  typed : Bool
  /-- Its tokens after the attributes. -/
  written : List Lexeme

/-- Whether the object is taken as `&self`, with or without a lifetime. -/
def Receiver.isShared (receiver : Receiver) : Bool :=
  receiver.byReference && !receiver.mutable && !receiver.typed

/-- One typed parameter of a method. -/
structure TypedInput where
  /-- Its attributes. -/
  attributes : List Attribute
  /-- Its pattern. -/
  pattern : Pattern
  /-- Its type. -/
  type : Ty

/-- One parameter of a method. -/
inductive Input where
  /-- The object it is called on. -/
  | receiver (receiver : Receiver)
  /-- Any other parameter. -/
  | typed (input : TypedInput)

/-- The tokens of a parameter. -/
def Input.lexemes : Input → List Lexeme
  | .receiver self => Attribute.outerLexemes self.attributes ++ self.written
  | .typed input =>
    Attribute.outerLexemes input.attributes ++ input.pattern.lexemes ++
      ⟨.mark ':' false, .nowhere⟩ :: input.type.lexemes

/-- Everything of a method before its body. -/
structure MethodHead where
  /-- Words before the name: `const`, `async`, `unsafe`, `extern` with its name, and `fn`. -/
  qualifiers : List Lexeme
  /-- The method's name. -/
  name : Name
  /-- Its generic parameters. -/
  generics : Generics
  /-- Where its parameter list stands. -/
  inputsSpan : Span
  /-- Its parameters. -/
  inputs : List Input
  /-- Whether a comma follows the last parameter. -/
  trailing : Bool
  /-- Further parameters of any number, or nothing. -/
  variadic : List Lexeme
  /-- The arrow before its declared return. -/
  arrow : Span
  /-- Its declared return. -/
  output : Option Ty
  /-- Its conditions with the keyword, or nothing. -/
  conditions : List Lexeme

namespace MethodHead

/-- Whether the method is asynchronous. -/
def isAsync (head : MethodHead) : Bool :=
  head.qualifiers.any fun lexeme => lexeme.token = .word "async"

/-- The receiver of the method, if its first parameter is one. -/
def receiver? (head : MethodHead) : Option Receiver :=
  match head.inputs with
  | .receiver receiver :: _ => some receiver
  | _ => none

/-- Whether the method is called on `&self`. -/
def takesShared (head : MethodHead) : Bool :=
  match head.receiver? with
  | some receiver => receiver.isShared
  | none => false

/-- The parameters other than the receiver. -/
def typedInputs (head : MethodHead) : List TypedInput :=
  head.inputs.filterMap fun input =>
    match input with
    | .receiver _ => none
    | .typed input => some input

/-- The tokens of the parameter list without its brackets. -/
def inputLexemes (head : MethodHead) : List Lexeme :=
  Generics.commaSeparated head.trailing (head.inputs.map Input.lexemes) ++
    (if head.variadic.isEmpty || head.inputs.isEmpty || head.trailing then [] else [comma]) ++
    head.variadic

/-- The tokens of the declared return. -/
def outputLexemes (head : MethodHead) : List Lexeme :=
  match head.output with
  | none => []
  | some type => Lexeme.ofMark "->" head.arrow ++ type.lexemes

/-- The tokens of everything before the body. -/
def lexemes (head : MethodHead) : List Lexeme :=
  head.qualifiers ++ head.name.lexeme :: head.generics.lexemes ++
    Lexeme.enclosed .parenthesis head.inputsSpan head.inputLexemes ++
    head.outputLexemes ++ head.conditions

/-- The stretch of everything before the body. -/
def span (head : MethodHead) : Span := Lexeme.spanOf head.lexemes

/-- The same method with other parameters. -/
def withInputs (head : MethodHead) (inputs : List Input) : MethodHead :=
  { head with inputs, trailing := false }

/-- Removes attributes from the parameters other than the receiver. -/
def mapTypedInputs (head : MethodHead) (change : TypedInput → TypedInput) : MethodHead :=
  { head with
    inputs := head.inputs.map fun input =>
      match input with
      | .receiver receiver => .receiver receiver
      | .typed input => .typed (change input) }

end MethodHead

/-- A method with its body. -/
structure MethodItem where
  /-- Its attributes, those inside its body included. -/
  attributes : List Attribute
  /-- Words before its head: a visibility and `default`. -/
  modifiers : List Lexeme
  /-- Everything before the body. -/
  head : MethodHead
  /-- The statements of its body and where the body stands. -/
  body : Option (List Lexeme × Span)

namespace MethodItem

/-- The tokens of a method. -/
def lexemes (method : MethodItem) : List Lexeme :=
  Attribute.outerLexemes method.attributes ++ method.modifiers ++ method.head.lexemes ++
    match method.body with
    | some (statements, span) =>
      Lexeme.enclosed .brace span (Attribute.innerLexemes method.attributes ++ statements)
    | none => [⟨.mark ';' false, .nowhere⟩]

end MethodItem

/-- One bound of a trait. -/
structure Bound where
  /-- The last name of the trait it asks for, if it asks for one. -/
  traitName : Option String
  /-- Its tokens. -/
  lexemes : List Lexeme
  deriving DecidableEq, Repr

/-- An item of a trait. -/
inductive TraitItem where
  /-- A method. -/
  | method (method : MethodItem)
  /-- A constant or an associated type. -/
  | declaration (lexemes : List Lexeme)
  /-- Anything that only later stages of compilation can tell. -/
  | uninterpreted (lexemes : List Lexeme)

/-- The tokens of a trait item. -/
def TraitItem.lexemes : TraitItem → List Lexeme
  | .method content => content.lexemes
  | .declaration lexemes => lexemes
  | .uninterpreted lexemes => lexemes

/-- A trait declaration. -/
structure TraitDecl where
  /-- Its attributes, those inside its body included. -/
  attributes : List Attribute
  /-- Words before its name: a visibility, `unsafe`, `auto` and `trait`. -/
  modifiers : List Lexeme
  /-- Its name. -/
  name : Name
  /-- Its generic parameters. -/
  generics : Generics
  /-- Its supertraits in order. -/
  supertraits : List Bound
  /-- Whether a plus sign follows the last supertrait. -/
  trailingPlus : Bool
  /-- Its conditions with the keyword, or nothing. -/
  conditions : List Lexeme
  /-- Its items. -/
  items : List TraitItem

namespace TraitDecl

/-- Bounds with plus signs between them. -/
def boundLexemes (trailing : Bool) : List Bound → List Lexeme
  | [] => []
  | [bound] => bound.lexemes ++ (if trailing then [⟨.mark '+' false, .nowhere⟩] else [])
  | bound :: rest => bound.lexemes ++ ⟨.mark '+' false, .nowhere⟩ :: boundLexemes trailing rest

/-- The tokens of a trait. -/
def lexemes (decl : TraitDecl) : List Lexeme :=
  Attribute.outerLexemes decl.attributes ++ decl.modifiers ++ decl.name.lexeme ::
    decl.generics.lexemes ++
    (if decl.supertraits.isEmpty then []
    else ⟨.mark ':' false, .nowhere⟩ :: boundLexemes decl.trailingPlus decl.supertraits) ++
    decl.conditions ++
    Lexeme.enclosed .brace .nowhere
      (Attribute.innerLexemes decl.attributes ++ decl.items.flatMap TraitItem.lexemes)

/-- The methods of a trait in order. -/
def methods (decl : TraitDecl) : List MethodItem :=
  decl.items.filterMap fun item =>
    match item with
    | .method method => some method
    | _ => none

/-- Whether any method is asynchronous. -/
def hasAsync (decl : TraitDecl) : Bool := decl.methods.any fun method => method.head.isAsync

end TraitDecl

/-- An item of an implementation block. -/
inductive ImplItem where
  /-- A method. -/
  | method (method : MethodItem)
  /-- Anything else. -/
  | other (lexemes : List Lexeme)

/-- The tokens of an item of an implementation block. -/
def ImplItem.lexemes : ImplItem → List Lexeme
  | .method content => content.lexemes
  | .other lexemes => lexemes

/-- An implementation block. -/
structure ImplBlock where
  /-- Its attributes, those inside its body included. -/
  attributes : List Attribute
  /-- Words before its generic parameters: `default`, `unsafe` and `impl`. -/
  modifiers : List Lexeme
  /-- Its generic parameters. -/
  generics : Generics
  /-- The trait it implements with the words around it; nothing for an inherent block. -/
  traitPart : Option (List Lexeme)
  /-- The type it belongs to. -/
  selfType : List Lexeme
  /-- Its conditions with the keyword, or nothing. -/
  conditions : List Lexeme
  /-- Its items. -/
  items : List ImplItem

namespace ImplBlock

/-- The tokens of a block. -/
def lexemes (block : ImplBlock) : List Lexeme :=
  Attribute.outerLexemes block.attributes ++ block.modifiers ++ block.generics.lexemes ++
    block.traitPart.getD [] ++ block.selfType ++ block.conditions ++
    Lexeme.enclosed .brace .nowhere
      (Attribute.innerLexemes block.attributes ++ block.items.flatMap ImplItem.lexemes)

/-- The methods of a block in order. -/
def methods (block : ImplBlock) : List MethodItem :=
  block.items.filterMap fun item =>
    match item with
    | .method method => some method
    | _ => none

end ImplBlock

end ServiceDispatch.Source
