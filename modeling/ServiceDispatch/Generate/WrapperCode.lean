import ServiceDispatch.Generate.Code

/-!
# Code for an implementation

The implementation block itself and the implementation of the contract. Each wrapper opens an
injection scope if it needs one, resolves its bindings in declared order, calls the method, and
releases the scope before it answers.
-/

namespace ServiceDispatch.Generate

open Source Code

/-- The variable that holds the injection scope. -/
def scopeVariable : Code := word "__opbind_scope"

/-- The call of a method on a value. -/
def methodCall (object : Code) (method : String) (arguments : Code) : Code :=
  object ++ mark "." ++ word method ++ parens arguments

/-- The call of a method on the scope for a type. -/
def scopeCall (method : String) (target : Ty) (arguments : Code) : Code :=
  scopeVariable ++ mark "." ++ word method ++ turbofish target.tokens ++ parens arguments

/-- The reading of a message property: from the scope itself, or from one that may be absent. -/
def propertyLookup (use : ScopeUse) (name : String) (target : Ty) : Code :=
  match use with
  | .required => scopeCall "message_property" target (text name)
  | _ =>
    methodCall (methodCall scopeVariable "as_ref" []) "and_then"
      (mark "|" ++ word "scope" ++ mark "|" ++ word "scope" ++ mark "." ++
        word "message_property" ++ turbofish target.tokens ++ parens (text name))

/-- The name of the method that hands out a part of the transport state. -/
def transportMethod : TransportPart → String
  | .context => "transport_context"
  | .request => "transport_request"
  | .response => "transport_response"

/-- The expression that resolves a binding. -/
def resolutionCode (use : ScopeUse) (injected : Injected Ty) : Code :=
  let target := injected.target
  match injected.plan with
  | .transport part => methodCall scopeVariable (transportMethod part) [] ++ mark "?"
  | .messageProperty name _ =>
    let lookup := propertyLookup use name target
    if injected.isOptional then lookup else methodCall lookup "unwrap_or_default" []
  | .keyedService key =>
    scopeCall (if injected.isOptional then "try_resolve_keyed" else "resolve_keyed") target
      (text key) ++ mark "?"
  | .defaultService =>
    scopeCall (if injected.isOptional then "try_resolve" else "resolve") target [] ++ mark "?"

/-- The expression that opens the scope. -/
def openScopeCode (use : ScopeUse) : Code :=
  let current := facade ["InjectionScope", "current"] ++ parens []
  match use with
  | .required => current ++ mark "?"
  | _ => methodCall current "ok" []

/-- A binding of a variable. -/
def letCode (variable_ : Code) (value : Code) : Code :=
  word "let" ++ variable_ ++ mark "=" ++ value ++ mark ";"

/-- The statement that resolves a parameter, if the wrapper does. -/
def resolutionStatement (use : ScopeUse) (parameter : WrapperParameter Ty) : Code :=
  match parameter.provision with
  | .caller => []
  | .injected injected =>
    letCode (word parameter.name ++ mark ":" ++ parameter.type.tokens)
      (resolutionCode use injected)

/-- The call of the implementation method with all its parameters. -/
def delegateCode (delegation : Delegation) : Code :=
  word "Self" ++ mark "::" ++ word delegation.name.text ++
    parens
      (word "self" ++ mark "," ++
        commas (delegation.plan.parameters.map fun parameter => word parameter.name)) ++
    (if delegation.plan.awaits then mark "." ++ word "await" else [])

/-- The body of a wrapper. -/
def wrapperBody (delegation : Delegation) : Code :=
  let plan := delegation.plan
  let call := delegateCode delegation
  match plan.scopeUse with
  | .none => call
  | use =>
    letCode scopeVariable (openScopeCode use) ++
      plan.parameters.flatMap (resolutionStatement use) ++
      letCode (word "__opbind_result") call ++
      path ["core", "mem", "drop"] ++ parens scopeVariable ++ mark ";" ++
      word "__opbind_result"

/-- The wrapper of a method. -/
def wrapperCode (delegation : Delegation) : Code :=
  Lexeme.tokens (delegation.attributes.flatMap Attribute.lexemes) ++
    Lexeme.tokens delegation.wrapper.lexemes ++ braces (wrapperBody delegation)

/-- The implementation of a contract by its wrappers. -/
def contractImplCode (contract : List Lexeme) (block : ImplBlock)
    (delegations : List Delegation) : Code :=
  (if delegations.any fun delegation => delegation.plan.awaits then asyncTrait else []) ++
    word "impl" ++ Lexeme.tokens block.generics.withoutDefaults ++ Lexeme.tokens contract ++
    word "for" ++ Lexeme.tokens block.selfType ++ Lexeme.tokens block.conditions ++
    braces (delegations.flatMap wrapperCode)

/-- An implementation block with everything that is generated for it. -/
def implCode (contract : List Lexeme) (block : ImplBlock)
    (analysis : Contribution Delegation) : Code :=
  Lexeme.tokens (stripMarkers block).lexemes ++
    (if block.traitPart.isNone then contractImplCode contract block analysis.operations else []) ++
    diagnostics analysis.diagnostics

end ServiceDispatch.Generate
