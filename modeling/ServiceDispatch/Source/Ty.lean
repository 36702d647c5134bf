import ServiceDispatch.Datum
import ServiceDispatch.Source.Lexeme
import ServiceDispatch.TypeName.Normal

/-!
# Types of source text

A type is kept as far as operations need to look into it: parentheses, references, the last name of
a path and its arguments. Everything else is kept as tokens. The questions below see through
parentheses.
-/

namespace ServiceDispatch.Source

/-- An identifier at its place, with the mark of a raw one. -/
structure Name where
  /-- The identifier as written. -/
  text : String
  /-- Where it stands. -/
  span : Span
  deriving DecidableEq, Repr

namespace Name

/-- The identifier without the mark of a raw one. -/
def plain (name : Name) : String :=
  match name.text.toList with
  | 'r' :: '#' :: rest => String.ofList rest
  | _ => name.text

/-- The token of a name. -/
def lexeme (name : Name) : Lexeme := ⟨.word name.text, name.span⟩

end Name

mutual

/-- A type. -/
inductive Ty where
  /-- A type in parentheses. -/
  | paren (inner : Ty) (span : Span)
  /-- A type in invisible brackets, which no text shows. -/
  | group (inner : Ty)
  /-- The type without information, `()`. -/
  | unit (span : Span)
  /-- A reference; the lead is its mark and its lifetime. -/
  | reference (lead : List Lexeme) (mutable : Bool) (target : Ty)
  /-- A path by what stands before its last name, that name and its arguments. -/
  | named (qualifier : List Lexeme) (name : Name) (arguments : Arguments)
  /-- A single bound in place of a type; the brackets around it, if it has any. -/
  | bound (lexemes : List Lexeme) (brackets : Option Span)
  /-- A type known by its traits alone. -/
  | implTrait (lexemes : List Lexeme)
  /-- Any other type. -/
  | other (lexemes : List Lexeme)

/-- Arguments of the last name of a path. -/
inductive Arguments where
  /-- No arguments. -/
  | absent
  /-- Arguments in angle brackets, lifetimes first. -/
  | angle (opening : List Lexeme) (items : List Argument) (trailing : Bool) (closing : Lexeme)

/-- One argument in angle brackets. -/
inductive Argument where
  /-- A type. -/
  | type (type : Ty)
  /-- A lifetime, a constant, or a constraint on an associated item. -/
  | other (lexemes : List Lexeme)

end

/-- A comma that stands nowhere. -/
def comma : Lexeme := ⟨.mark ',' false, .nowhere⟩

mutual

/-- The tokens of a type. -/
def Ty.lexemes : Ty → List Lexeme
  | .paren inner span => Lexeme.enclosed .parenthesis span inner.lexemes
  | .group inner => inner.lexemes
  | .unit span => Lexeme.enclosed .parenthesis span []
  | .reference lead mutable target =>
    lead ++ (if mutable then [⟨.word "mut", .nowhere⟩] else []) ++ target.lexemes
  | .named qualifier name arguments => qualifier ++ name.lexeme :: arguments.lexemes
  | .bound lexemes none => lexemes
  | .bound lexemes (some span) => Lexeme.enclosed .parenthesis span lexemes
  | .implTrait lexemes => lexemes
  | .other lexemes => lexemes

/-- The tokens of arguments. -/
def Arguments.lexemes : Arguments → List Lexeme
  | .absent => []
  | .angle opening items trailing closing =>
    opening ++ Argument.listLexemes items trailing ++ [closing]

/-- The tokens of an argument. -/
def Argument.lexemes : Argument → List Lexeme
  | .type type => type.lexemes
  | .other lexemes => lexemes

/-- The tokens of arguments with commas between them. -/
def Argument.listLexemes : List Argument → (trailing : Bool) → List Lexeme
  | [], _ => []
  | [item], trailing => item.lexemes ++ (if trailing then [comma] else [])
  | item :: rest, trailing => item.lexemes ++ comma :: Argument.listLexemes rest trailing

end

namespace Ty

/-- The stretch of a type. -/
def span (type : Ty) : Span := Lexeme.spanOf type.lexemes

/-- The tokens of a type without their places. -/
def tokens (type : Ty) : List Token := Lexeme.tokens type.lexemes

/-- The normal form of a type's text, as signatures record it. -/
def typeName (type : Ty) : String := TypeName.normalize (Token.spaced type.tokens)

/-- A type without the brackets around it. -/
def ungroup : Ty → Ty
  | paren inner _ => inner.ungroup
  | group inner => inner.ungroup
  | type => type

/-- Whether a type is `()`. -/
def isUnit (type : Ty) : Bool :=
  match type.ungroup with
  | unit _ => true
  | _ => false

/-- The last name of a path: `Arc` of `std::sync::Arc<T>`. -/
def lastName? (type : Ty) : Option String :=
  match type.ungroup with
  | named _ name _ => some name.text
  | _ => none

/-- The types among some arguments. -/
def typesAmong : List Argument → List Ty
  | [] => []
  | .type type :: rest => type :: typesAmong rest
  | .other _ :: rest => typesAmong rest

/-- The type arguments of the last name of a path. -/
def typeArguments (type : Ty) : List Ty :=
  match type.ungroup with
  | named _ _ (.angle _ items _ _) => typesAmong items
  | _ => []

/-- The only type argument of a type with the given last name. -/
def unwrap? (type : Ty) (wrapper : String) : Option Ty :=
  if type.lastName? = some wrapper then
    match type.typeArguments with
    | [inner] => some inner
    | _ => none
  else none

/-- The value and the error type of a `Result` with both. -/
def resultParts? (type : Ty) : Option (Ty × Ty) :=
  if type.lastName? = some "Result" then
    match type.typeArguments with
    | [value, failure] => some (value, failure)
    | _ => none
  else none

/-- Whether a type is spelled as a `Result`, an alias with one argument included. -/
def isResult (type : Ty) : Bool := type.lastName? = some "Result"

end Ty

/-- What a declared return means for a caller. -/
structure ReturnSpec where
  /-- Whether an error must be surfaced. -/
  fallible : Bool
  /-- The type of the value that is returned, if any. -/
  value : Option Ty

namespace ReturnSpec

/-- A type unless it is `()`. -/
def unlessUnit (type : Ty) : Option Ty := if type.isUnit then none else some type

/-- The meaning of a declared return. -/
def ofOutput : Option Ty → ReturnSpec
  | none => ⟨false, none⟩
  | some type =>
    if type.isUnit then ⟨false, none⟩
    else
      match type.resultParts? with
      | some (value, _) => ⟨true, unlessUnit value⟩
      | none =>
        if type.isResult then ⟨true, type.typeArguments.head?.bind unlessUnit⟩
        else ⟨false, some type⟩

/-- Whether a value is returned. -/
def hasValue (spec : ReturnSpec) : Bool := spec.value.isSome

/-- The meaning of a return as data. -/
def toDatum (spec : ReturnSpec) : Datum :=
  .table
    [("fallible", .flag spec.fallible), ("has_value", .flag spec.hasValue),
     ("value", .ofOption (fun type => .text type.typeName) spec.value)]

end ReturnSpec

/-- Whether a declared return is spelled as a `Result`. -/
def returnsResult : Option Ty → Bool
  | none => false
  | some type => type.isResult

end ServiceDispatch.Source
