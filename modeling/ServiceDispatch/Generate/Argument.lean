import ServiceDispatch.Source.Grammar.Levels
import ServiceDispatch.Source.Literal

/-!
# Arguments of attributes

Attributes take arguments between commas, each a path and for some a value after an equals sign. The
rules below read one argument after another and say what is wrong with the first that cannot be
read.
-/

namespace ServiceDispatch.Generate

open Source

/-- What is wrong with the arguments of an attribute. -/
inductive ArgumentFault where
  /-- A value is missing. -/
  | missingEquals
  /-- A value is no string. -/
  | missingString (atEnd : Bool)
  /-- A value is no expression. -/
  | missingExpression (atEnd : Bool)
  /-- Something stands between an argument and the end. -/
  | missingComma
  /-- An argument starts with a literal. -/
  | literalArgument
  /-- An argument starts with something else that is no name. -/
  | namelessArgument
  /-- An argument ends after its first separator. -/
  | missingArgument
  /-- A path goes on without a name. -/
  | missingName (atEnd : Bool)
  /-- A contract takes no such argument. -/
  | unknownContractArgument
  /-- An injection is assigned a value instead of taking arguments. -/
  | missingParentheses
  deriving DecidableEq, Repr

namespace ArgumentFault

/-- The words for a missing part; at the end of the input they say so. -/
def wanted (atEnd : Bool) (text : String) : String :=
  if atEnd then "unexpected end of input, " ++ text else text

/-- The description of a fault. -/
def message : ArgumentFault → String
  | missingEquals => "expected `=`"
  | missingString atEnd => wanted atEnd "expected string literal"
  | missingExpression atEnd => wanted atEnd "expected an expression"
  | missingComma => "expected `,`"
  | literalArgument => "unexpected literal in nested attribute, expected ident"
  | namelessArgument => "unexpected token in nested attribute, expected ident"
  | missingArgument => "unexpected end of input, expected nested attribute"
  | missingName atEnd => wanted atEnd "expected ident"
  | unknownContractArgument => "unsupported service_contract argument; expected `namespace`"
  | missingParentheses => "expected parentheses: #[inject(...)]"

end ArgumentFault

/-- A string literal by its value. -/
structure StringArgument where
  /-- The text it denotes. -/
  value : String
  /-- Where it stands. -/
  span : Span
  deriving DecidableEq, Repr

/-- Reads from the front of some trees, or says what is wrong. -/
abbrev ArgumentReader (α : Type) := List Tree → Except ArgumentFault (α × List Tree)

/-- Reads the names of a path after its first; the fuel bounds their number. -/
def furtherNames : (fuel : Nat) → ArgumentReader (List Name)
  | 0, trees => .ok ([], trees)
  | fuel + 1, trees =>
    if isMark "::" trees then
      match trees.drop 2 with
      | .leaf ⟨.word text, span⟩ :: rest => do
        let (others, rest) ← furtherNames fuel rest
        .ok (⟨text, span⟩ :: others, rest)
      | rest => .error (.missingName rest.isEmpty)
    else .ok ([], trees)

/-- Reads the path of an argument; keywords are allowed. -/
def argumentPath : ArgumentReader NamePath := fun trees =>
  let leading := isMark "::" trees
  match if leading then trees.drop 2 else trees with
  | .leaf ⟨.word text, span⟩ :: rest => do
    let place := (trees.head?.map Tree.span).getD .nowhere
    let (others, rest) ← furtherNames rest.length rest
    .ok (⟨if leading then some place else none, ⟨text, span⟩ :: others⟩, rest)
  | rest =>
    if rest.isEmpty then .error .missingArgument
    else if isLiteral rest then .error .literalArgument
    else .error .namelessArgument

/-- Reads an equals sign and a string. -/
def stringArgument : ArgumentReader StringArgument := fun trees =>
  if isMark "=" trees then
    match trees.drop 1 with
    | .leaf ⟨.literal text, span⟩ :: rest =>
      match stringValue? text with
      | some value => .ok (⟨value, span⟩, rest)
      | none => .error (.missingString false)
    | rest => .error (.missingString rest.isEmpty)
  else .error .missingEquals

/-- Skips an equals sign and an expression, where an equals sign stands ahead. -/
def skipValue : ArgumentReader Unit := fun trees =>
  if isMark "=" trees then
    let rest := trees.drop 1
    match (Grammar.forTrees rest).expression true ⟨rest, []⟩ with
    | some (_, after) => .ok ((), after.rest)
    | none => .error (.missingExpression rest.isEmpty)
  else .ok ((), trees)

/-- Reads arguments up to the end; the fuel bounds their number. -/
def argumentsFrom {α : Type} (argument : NamePath → ArgumentReader α) :
    (fuel : Nat) → List Tree → Except ArgumentFault (List α)
  | 0, _ => .ok []
  | fuel + 1, trees =>
    if trees.isEmpty then .ok []
    else do
      let (path, rest) ← argumentPath trees
      let (first, rest) ← argument path rest
      if rest.isEmpty then .ok [first]
      else if isMark "," rest then
        let others ← argumentsFrom argument fuel (rest.drop 1)
        .ok (first :: others)
      else .error .missingComma

/-- Reads arguments, each by the rule for its path. -/
def arguments {α : Type} (argument : NamePath → ArgumentReader α) (trees : List Tree) :
    Except ArgumentFault (List α) :=
  argumentsFrom argument trees.length trees

end ServiceDispatch.Generate
