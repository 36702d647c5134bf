import ServiceDispatch.Generate.Diagnostic
import ServiceDispatch.Generate.Marker
import ServiceDispatch.Text.Case
import ServiceDispatch.Text.Quoted

/-!
# Generated code

Generated code is a sequence of tokens. The rules below are its building blocks, and the names of
the items that are generated for a contract.
-/

namespace ServiceDispatch.Generate

open Source

/-- A sequence of generated tokens. -/
abbrev Code := List Token

namespace Code

/-- Words one after another. -/
def words (texts : List String) : Code := texts.map Token.word

/-- One word. -/
def word (text : String) : Code := [.word text]

/-- Punctuation. -/
def mark (text : String) : Code := Lexeme.tokens (Lexeme.ofMark text .nowhere)

/-- A sequence between brackets. -/
def enclosed (delimiter : Delimiter) (inner : Code) : Code :=
  .opening delimiter :: inner ++ [.closing delimiter]

/-- A sequence in parentheses. -/
def parens (inner : Code) : Code := enclosed .parenthesis inner

/-- A sequence in square brackets. -/
def brackets (inner : Code) : Code := enclosed .bracket inner

/-- A sequence in braces. -/
def braces (inner : Code) : Code := enclosed .brace inner

/-- Sequences with commas between them. -/
def commas (items : List Code) : Code := (items.intersperse (mark ",")).flatten

/-- A sequence in angle brackets after a separator. -/
def turbofish (inner : Code) : Code := mark "::" ++ mark "<" ++ inner ++ mark ">"

/-- A path with a leading separator. -/
def path (names : List String) : Code := Lexeme.tokens (globalNames names).lexemes

/-- A path into the facade of the library. -/
def facade (names : List String) : Code := path (facadeName :: names)

/-- A string literal. -/
def text (value : String) : Code := [.literal (Text.literal value)]

/-- A size literal. -/
def count (n : Nat) : Code := [.literal (n.repr ++ "usize")]

/-- A reference for the whole run of a program. -/
def staticRef (target : Code) : Code := mark "&" ++ [.lifetime "static"] ++ target

/-- An attribute. -/
def attributed (inner : Code) : Code := mark "#" ++ brackets inner

/-- The attribute that keeps an item out of the documentation. -/
def undocumented : Code := attributed (word "doc" ++ parens (word "hidden"))

/-- The attribute that allows a lint. -/
def allowing (lint : String) : Code := attributed (word "allow" ++ parens (word lint))

/-- The attribute for implementations of traits with asynchronous methods. -/
def asyncTrait : Code := Lexeme.tokens asyncTraitAttribute.lexemes

/-- A static item. -/
def static (name : String) (type value : Code) : Code :=
  words ["static", name] ++ mark ":" ++ type ++ mark "=" ++ value ++ mark ";"

/-- The receiver of a method that is called on `&self`. -/
def sharedSelf : Code := mark "&" ++ word "self"

/-- A value in its own allocation. -/
def boxed (value : Code) : Code :=
  path ["std", "boxed", "Box"] ++ mark "::" ++ word "new" ++ parens value

/-- The failure of a compilation with a message. -/
def compileError (message : String) : Code :=
  path ["core", "compile_error"] ++ mark "!" ++ braces (text message)

/-- The failures that report diagnostics. -/
def diagnostics (found : List Diagnostic) : Code :=
  found.flatMap fun diagnostic => compileError diagnostic.display

end Code

/-- The start of every generated static. -/
def staticStart : String := "__OPBIND_"

/-- The name of a static that is generated for an operation. -/
def staticName (kind : String) (contract method : Name) : String :=
  staticStart ++ kind ++ "__" ++ Text.toUpper contract.plain ++ "__" ++ Text.toUpper method.plain

/-- The name of the table of operations that is generated for a contract. -/
def tableName (contract : Name) : String :=
  staticStart ++ "OPERATIONS__" ++ Text.toUpper contract.plain

/-- The name of the adapter type that is generated for an operation. -/
def adapterName (contract method : Name) : String :=
  "__OpbindAdapter_" ++ contract.plain ++ "_" ++ method.plain

/-- The name of the factory of adapters that is generated for an operation. -/
def factoryName (contract method : Name) : String :=
  "__opbind_factory_" ++ contract.plain ++ "_" ++ method.plain

/-- The names of the items that are generated for an operation. -/
def operationItemNames (contract method : Name) : List String :=
  [staticName "PARAMS" contract method, staticName "SIG" contract method,
   adapterName contract method, factoryName contract method, staticName "ENTRY" contract method]

/-- The names of the items that are generated for a contract with some methods. -/
def contractItemNames (contract : Name) (methods : List Name) : List String :=
  tableName contract :: methods.flatMap (operationItemNames contract)

end ServiceDispatch.Generate
