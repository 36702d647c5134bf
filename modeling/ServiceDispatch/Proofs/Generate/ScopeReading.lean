import Mathlib.Data.List.Forall2
import ServiceDispatch.Generate.WrapperCode

/-!
# Reading from an injection scope

The statements by which a generated wrapper opens an injection scope and reads its bindings from it,
with the tokens that they are written in. A scope that is required is held as it is, and any method
of scopes may be called on it; one that may be absent hands out message properties and nothing else.
Whatever wrapper analysis plans is made of such statements.
-/

namespace ServiceDispatch.Generate

open Source Code

/-- How a wrapper holds its injection scope. -/
inductive ScopeForm where
  /-- As a scope. -/
  | plain
  /-- As a scope or nothing. -/
  | optional
  deriving DecidableEq

namespace ScopeForm

/-- The expression that opens a scope. A plain one is there after a question mark, an optional one
is there or not without any. -/
def opening : ScopeForm → Code
  | plain => facade ["InjectionScope", "current"] ++ parens [] ++ mark "?"
  | optional => facade ["InjectionScope", "current"] ++ parens [] ++ mark "." ++ word "ok" ++ parens []

/-- The form in which a scope is held that is opened in some way. -/
def ofUse : ScopeUse → ScopeForm
  | .required => plain
  | _ => optional

end ScopeForm

/-- What is read from a scope, by the form in which that is held. -/
inductive Lookup : ScopeForm → Type where
  /-- A part of the transport state. -/
  | transport (part : TransportPart) : Lookup .plain
  /-- A message property of a type; the initial value of the type may stand for an absent one. -/
  | property {form : ScopeForm} (name : String) (target : Ty) (orInitial : Bool) : Lookup form
  /-- A service by its type, perhaps with a key, which may have to be there. -/
  | service (key : Option String) (target : Ty) (required : Bool) : Lookup .plain

namespace Lookup

/-- The call of the method of scopes that reads a part of the transport state. -/
def transportCall (object : String) : TransportPart → Code
  | .context => word object ++ mark "." ++ word "transport_context" ++ parens []
  | .request => word object ++ mark "." ++ word "transport_request" ++ parens []
  | .response => word object ++ mark "." ++ word "transport_response" ++ parens []

/-- The call of the method that reads a message property. -/
def propertyCall (object name : String) (target : Ty) : Code :=
  word object ++ mark "." ++ word "message_property" ++ turbofish target.tokens ++
    parens (text name)

/-- The call of the method that finds a service. -/
def serviceCall (object : String) (target : Ty) : Option String → (required : Bool) → Code
  | none, true => word object ++ mark "." ++ word "resolve" ++ turbofish target.tokens ++ parens []
  | none, false =>
    word object ++ mark "." ++ word "try_resolve" ++ turbofish target.tokens ++ parens []
  | some key, true =>
    word object ++ mark "." ++ word "resolve_keyed" ++ turbofish target.tokens ++ parens (text key)
  | some key, false =>
    word object ++ mark "." ++ word "try_resolve_keyed" ++ turbofish target.tokens ++
      parens (text key)

/-- The expression that stands for the initial value of a type where a property is absent. -/
def initialCode (orInitial : Bool) : Code :=
  if orInitial then mark "." ++ word "unwrap_or_default" ++ parens [] else []

/-- The code of a look-up in the scope of a wrapper. -/
def code : {form : ScopeForm} → Lookup form → Code
  | _, transport part => transportCall "__opbind_scope" part ++ mark "?"
  | .plain, property name target orInitial =>
    propertyCall "__opbind_scope" name target ++ initialCode orInitial
  | .optional, property name target orInitial =>
    word "__opbind_scope" ++ mark "." ++ word "as_ref" ++ parens [] ++
      mark "." ++ word "and_then" ++
      parens (mark "|" ++ word "scope" ++ mark "|" ++ propertyCall "scope" name target) ++
      initialCode orInitial
  | _, service key target required => serviceCall "__opbind_scope" target key required ++ mark "?"

/-- Whether the code of a look-up ends in a question mark. -/
def asks : {form : ScopeForm} → Lookup form → Bool
  | _, property _ _ _ => false
  | _, transport _ | _, service _ _ _ => true

/-- A look-up is the one that a binding asks for. -/
inductive Serves : {form : ScopeForm} → Lookup form → Injected Ty → Prop where
  /-- A binding to the transport state reads that part of it. -/
  | transport {part : TransportPart} {target : Ty} {isOptional : Bool} :
      Serves (.transport part) ⟨.transport part, target, isOptional⟩
  /-- A binding to a message property reads it by its name, and wants a value unless it is
  optional. -/
  | property {form : ScopeForm} {name typeName : String} {target : Ty} {isOptional : Bool} :
      Serves (@Lookup.property form name target !isOptional)
        ⟨.messageProperty name typeName, target, isOptional⟩
  /-- A binding to a service with a key finds it by the key, and wants it unless it is optional. -/
  | keyedService {key : String} {target : Ty} {isOptional : Bool} :
      Serves (.service (some key) target !isOptional) ⟨.keyedService key, target, isOptional⟩
  /-- One without a key finds it by its type alone. -/
  | defaultService {target : Ty} {isOptional : Bool} :
      Serves (.service none target !isOptional) ⟨.defaultService, target, isOptional⟩

/-- A look-up asks exactly if the binding can fail. -/
theorem Serves.asks_eq {form : ScopeForm} {lookup : Lookup form} {injected : Injected Ty}
    (serves : lookup.Serves injected) : lookup.asks = injected.plan.isFallible := by
  cases serves <;> rfl

end Lookup

/-- A statement that binds a variable to what is read from a scope. -/
structure ScopeStatement (form : ScopeForm) where
  /-- The variable. -/
  name : String
  /-- Its type. -/
  type : Ty
  /-- What is read. -/
  lookup : Lookup form

namespace ScopeStatement

variable {form : ScopeForm}

/-- The code of a statement. -/
def code (statement : ScopeStatement form) : Code :=
  word "let" ++ word statement.name ++ mark ":" ++ statement.type.tokens ++ mark "=" ++
    statement.lookup.code ++ mark ";"

/-- A statement binds a parameter that is injected: its identifier, with its declared type, to what
its binding asks for. -/
inductive Binds : ScopeStatement form → WrapperParameter Ty → Prop where
  /-- By the binding of the parameter. -/
  | injected {name : String} {type : Ty} {injected : Injected Ty} {lookup : Lookup form}
      (serves : lookup.Serves injected) : Binds ⟨name, type, lookup⟩ ⟨name, type, .injected injected⟩

end ScopeStatement

/-- The body of a wrapper that opens a scope, binds variables by it, calls a method, and lets the
scope go before it answers. -/
def scopedBody {form : ScopeForm} (statements : List (ScopeStatement form)) (call : Code) : Code :=
  (word "let" ++ word "__opbind_scope" ++ mark "=" ++ form.opening ++ mark ";") ++
    (statements.map ScopeStatement.code).flatten ++
    (word "let" ++ word "__opbind_result" ++ mark "=" ++ call ++ mark ";") ++
    (path ["core", "mem", "drop"] ++ parens (word "__opbind_scope") ++ mark ";") ++
    word "__opbind_result"

section Plans

variable {plan : WrapperPlan Ty}

theorem mem_injected_iff {injected : Injected Ty} :
    injected ∈ plan.injected ↔
      ∃ parameter ∈ plan.parameters, parameter.provision = .injected injected := by
  rw [WrapperPlan.injected, List.mem_filterMap]
  refine exists_congr fun parameter => and_congr_right fun _ => ?_
  rw [WrapperParameter.injected?]
  cases parameter.provision <;> simp

theorem isFallible_eq_false_iff :
    plan.isFallible = false ↔ ∀ injected ∈ plan.injected, injected.plan.isFallible = false := by
  rw [WrapperPlan.isFallible, List.any_eq_false]
  simp only [Bool.not_eq_true]

/-- A wrapper opens no scope if it has nothing to inject. -/
theorem scopeUse_eq_none_iff : plan.scopeUse = .none ↔ plan.injected = [] := by
  rw [WrapperPlan.scopeUse]
  cases plan.injected with
  | nil => simp
  | cons first rest => cases plan.isFallible <;> simp

theorem scopeUse_of_isFallible (fallible : plan.isFallible = true) : plan.scopeUse = .required := by
  have some : plan.injected ≠ [] := by
    intro nothing
    rw [WrapperPlan.isFallible, nothing] at fallible
    cases fallible
  rw [WrapperPlan.scopeUse, if_neg (by simpa using some), if_pos fallible]

theorem scopeUse_of_infallible (safe : plan.isFallible = false) (some : plan.injected ≠ []) :
    plan.scopeUse = .whenAvailable := by
  rw [WrapperPlan.scopeUse, if_neg (by simpa using some), if_neg (by simp [safe])]

/-- Where a scope is required, every binding is looked up in it as it is. -/
theorem exists_lookup_required (injected : Injected Ty) :
    ∃ lookup : Lookup .plain, lookup.Serves injected ∧
      resolutionCode .required injected = lookup.code := by
  obtain ⟨plan, target, isOptional⟩ := injected
  cases plan with
  | transport part =>
    refine ⟨_, .transport, ?_⟩
    cases part <;> rfl
  | messageProperty name typeName =>
    refine ⟨_, .property, ?_⟩
    cases isOptional with
    | true => exact (List.append_nil _).symm
    | false => simp [resolutionCode, methodCall, propertyLookup, scopeCall, scopeVariable,
        Lookup.code, Lookup.propertyCall, Lookup.initialCode]
  | keyedService key =>
    refine ⟨_, .keyedService, ?_⟩
    cases isOptional <;> rfl
  | defaultService =>
    refine ⟨_, .defaultService, ?_⟩
    cases isOptional <;> rfl

/-- Where a scope may be absent, a message property is looked up in it if it is there. -/
theorem exists_lookup_whenAvailable {injected : Injected Ty}
    (safe : injected.plan.isFallible = false) :
    ∃ lookup : Lookup .optional, lookup.Serves injected ∧
      resolutionCode .whenAvailable injected = lookup.code := by
  obtain ⟨plan, target, isOptional⟩ := injected
  cases plan with
  | messageProperty name typeName =>
    refine ⟨_, .property, ?_⟩
    cases isOptional <;>
      simp [resolutionCode, methodCall, propertyLookup, scopeVariable, Lookup.code,
        Lookup.propertyCall, Lookup.initialCode]
  | transport | keyedService | defaultService => cases safe

/-- Every binding of a plan is looked up in the scope as the plan opens it. -/
theorem exists_lookup {injected : Injected Ty} (mem : injected ∈ plan.injected) :
    ∃ lookup : Lookup (.ofUse plan.scopeUse), lookup.Serves injected ∧
      resolutionCode plan.scopeUse injected = lookup.code := by
  cases fallible : plan.isFallible with
  | true =>
    rw [scopeUse_of_isFallible fallible]
    exact exists_lookup_required injected
  | false =>
    rw [scopeUse_of_infallible fallible (List.ne_nil_of_mem mem)]
    exact exists_lookup_whenAvailable (isFallible_eq_false_iff.mp fallible injected mem)

/-- The statements of some parameters bind those that are injected, if there is a look-up for each
of these. -/
theorem exists_statements_of_lookups {use : ScopeUse} {parameters : List (WrapperParameter Ty)}
    (looked : ∀ parameter ∈ parameters, ∀ injected, parameter.provision = .injected injected →
      ∃ lookup : Lookup (.ofUse use), lookup.Serves injected ∧
        resolutionCode use injected = lookup.code) :
    ∃ statements : List (ScopeStatement (.ofUse use)),
      List.Forall₂ ScopeStatement.Binds statements (parameters.filter (! ·.isContract)) ∧
        parameters.flatMap (resolutionStatement use) =
          (statements.map ScopeStatement.code).flatten := by
  induction parameters with
  | nil => exact ⟨[], .nil, rfl⟩
  | cons parameter rest ih =>
    obtain ⟨first, others⟩ := List.forall_mem_cons.mp looked
    obtain ⟨statements, binds, code⟩ := ih others
    obtain ⟨name, type, provision⟩ := parameter
    cases provision with
    | caller => exact ⟨statements, binds, code⟩
    | injected injected =>
      obtain ⟨lookup, serves, read⟩ := first injected rfl
      have statement : resolutionStatement use ⟨name, type, .injected injected⟩ =
          ScopeStatement.code ⟨name, type, lookup⟩ := by
        simp [resolutionStatement, letCode, read, ScopeStatement.code]
      refine ⟨⟨name, type, lookup⟩ :: statements, .cons (.injected serves) binds, ?_⟩
      rw [List.flatMap_cons, statement, code, List.map_cons, List.flatten_cons]

/-- The statements of a plan bind its injected parameters in declared order. -/
theorem exists_statements (plan : WrapperPlan Ty) :
    ∃ statements : List (ScopeStatement (.ofUse plan.scopeUse)),
      List.Forall₂ ScopeStatement.Binds statements (plan.parameters.filter (! ·.isContract)) ∧
        plan.parameters.flatMap (resolutionStatement plan.scopeUse) =
          (statements.map ScopeStatement.code).flatten :=
  exists_statements_of_lookups fun parameter mem _ provision =>
    exists_lookup (mem_injected_iff.mpr ⟨parameter, mem, provision⟩)

end Plans

/-- The body of a wrapper without bindings is its call. -/
theorem wrapperBody_of_nil {delegation : Delegation} (nothing : delegation.plan.injected = []) :
    wrapperBody delegation = delegateCode delegation := by
  rw [wrapperBody, scopeUse_eq_none_iff.mpr nothing]

/-- The body of any other wrapper opens a scope and binds all injected parameters by it. -/
theorem exists_scopedBody {delegation : Delegation} (some : delegation.plan.injected ≠ []) :
    ∃ statements : List (ScopeStatement (.ofUse delegation.plan.scopeUse)),
      List.Forall₂ ScopeStatement.Binds statements
        (delegation.plan.parameters.filter (! ·.isContract)) ∧
      wrapperBody delegation = scopedBody statements (delegateCode delegation) := by
  obtain ⟨statements, binds, code⟩ := exists_statements delegation.plan
  refine ⟨statements, binds, ?_⟩
  have opened := mt scopeUse_eq_none_iff.mp some
  rw [wrapperBody, scopedBody, ← code]
  cases use : delegation.plan.scopeUse with
  | none => exact absurd use opened
  | whenAvailable => simp [letCode, openScopeCode, methodCall, scopeVariable, ScopeForm.ofUse,
      ScopeForm.opening]
  | required => simp [letCode, openScopeCode, scopeVariable, ScopeForm.ofUse, ScopeForm.opening]

end ServiceDispatch.Generate
