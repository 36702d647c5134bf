import Mathlib.Data.List.Nodup
import ServiceDispatch.Proofs.Call.Delegation
import ServiceDispatch.Proofs.Generate.ScopeReading

/-!
# Bodies of generated wrappers

The body that is emitted for a wrapper, read as the straight-line program it is: a scope that is
opened, statements that bind variables by it one after another, and one call. A question mark leaves
the body with the error it meets, converted to one of the operation, and the scope is let go on
every way out. Running the body comes to what a wrapper with the plan does, since no two parameters
have one name. That a compiler runs the body in this way is the meaning given to it here.
-/

namespace ServiceDispatch

variable {τ υ : Type}

/-- A binding over another kind of type. -/
def Injected.map (change : τ → υ) (injected : Injected τ) : Injected υ :=
  ⟨injected.plan, change injected.target, injected.isOptional⟩

/-- A provision over another kind of type. -/
def Provision.map (change : τ → υ) : Provision τ → Provision υ
  | caller => caller
  | injected binding => injected (binding.map change)

/-- A parameter over another kind of type. -/
def WrapperParameter.map (change : τ → υ) (parameter : WrapperParameter τ) : WrapperParameter υ :=
  ⟨parameter.name, change parameter.type, parameter.provision.map change⟩

/-- A plan over another kind of type. -/
def WrapperPlan.map (change : τ → υ) (plan : WrapperPlan τ) : WrapperPlan υ :=
  ⟨plan.parameters.map (WrapperParameter.map change), plan.awaits⟩

section

variable (change : τ → υ)

theorem WrapperParameter.injected?_map (parameter : WrapperParameter τ) :
    (parameter.map change).injected? = parameter.injected?.map (Injected.map change) := by
  obtain ⟨name, type, provision⟩ := parameter
  cases provision <;> rfl

/-- The caller supplies as many parameters, whatever types mean. -/
theorem WrapperPlan.countP_isContract_map (plan : WrapperPlan τ) :
    (plan.map change).parameters.countP WrapperParameter.isContract =
      plan.parameters.countP WrapperParameter.isContract := by
  rw [map, List.countP_map]
  refine List.countP_congr fun parameter _ => ?_
  rw [Function.comp_apply, WrapperParameter.isContract, WrapperParameter.injected?_map,
    Option.isNone_map]
  rfl

theorem WrapperPlan.injected_map (plan : WrapperPlan τ) :
    (plan.map change).injected = plan.injected.map (Injected.map change) := by
  rw [injected, injected, List.map_filterMap]
  simp only [map, List.filterMap_map, Function.comp_def, WrapperParameter.injected?_map]

theorem WrapperPlan.scopeUse_map (plan : WrapperPlan τ) :
    (plan.map change).scopeUse = plan.scopeUse := by
  rw [scopeUse, scopeUse, isFallible, isFallible, injected_map, List.isEmpty_map, List.any_map]
  rfl

/-- Arguments are arranged by who supplies them; types play no part. -/
theorem Wrapper.arrange_map (parameters : List (WrapperParameter τ)) (passed : List Value)
    (resolved : List Argument) :
    arrange (parameters.map (WrapperParameter.map change)) passed resolved =
      arrange parameters passed resolved := by
  induction parameters generalizing passed resolved with
  | nil => rfl
  | cons parameter rest ih =>
    obtain ⟨name, type, provision⟩ := parameter
    cases provision <;> cases passed <;> cases resolved <;>
      simp [arrange, WrapperParameter.map, Provision.map, ih]

end

namespace Generate

open Source Code

/-- The call of a method with variables for all its parameters. -/
structure DelegateCall where
  /-- What is passed to the method, in order. -/
  arguments : List String
  /-- Whether the call is awaited. -/
  awaits : Bool

/-- The code of a call. -/
def DelegateCall.code (call : DelegateCall) (method : Name) : Code :=
  word "Self" ++ mark "::" ++ word method.text ++
    parens (word "self" ++ mark "," ++ commas (call.arguments.map word)) ++
    (if call.awaits then mark "." ++ word "await" else [])

/-- The body of a wrapper. -/
inductive WrapperBody where
  /-- It calls the method. -/
  | direct (call : DelegateCall)
  /-- It opens a scope, binds variables by it, and calls the method. -/
  | resolving {form : ScopeForm} (statements : List (ScopeStatement form)) (call : DelegateCall)

namespace WrapperBody

/-- The code of a body that calls a method. -/
def code (method : Name) : WrapperBody → Code
  | direct call => call.code method
  | resolving statements call => scopedBody statements (call.code method)

/-- A body is the one that a plan asks for. -/
inductive Follows : WrapperBody → WrapperPlan Ty → Prop where
  /-- With nothing to inject it passes all parameters on. -/
  | direct {plan : WrapperPlan Ty} (nothing : plan.injected = []) :
      Follows (.direct ⟨plan.parameters.map (·.name), plan.awaits⟩) plan
  /-- Otherwise it binds the injected ones in declared order before that. -/
  | resolving {plan : WrapperPlan Ty} {statements : List (ScopeStatement (.ofUse plan.scopeUse))}
      (some : plan.injected ≠ [])
      (binds : List.Forall₂ ScopeStatement.Binds statements
        (plan.parameters.filter (! ·.isContract))) :
      Follows (.resolving statements ⟨plan.parameters.map (·.name), plan.awaits⟩) plan

/-- What is emitted for the body of a wrapper is the code of a body that its plan asks for. -/
theorem exists_follows (delegation : Delegation) :
    ∃ body : WrapperBody, body.Follows delegation.plan ∧
      wrapperBody delegation = body.code delegation.name := by
  have call : delegateCode delegation = DelegateCall.code
      ⟨delegation.plan.parameters.map (·.name), delegation.plan.awaits⟩ delegation.name := by
    rw [delegateCode, DelegateCall.code, List.map_map]
    rfl
  by_cases nothing : delegation.plan.injected = []
  · exact ⟨_, .direct nothing, (wrapperBody_of_nil nothing).trans call⟩
  · obtain ⟨statements, binds, body⟩ := exists_scopedBody nothing
    exact ⟨_, .resolving nothing binds, by rw [body, call]; rfl⟩

end WrapperBody

/-- A scope as a wrapper holds it. -/
def ScopeForm.Held : ScopeForm → Type
  | plain => InjectionScope
  | optional => Option InjectionScope

namespace ScopeForm

variable {σ ε : Type}

/-- Opens a scope. Where it is held as it is, a failure leaves the body. -/
def enter (convert : Failure → OperationError) : (form : ScopeForm) → Operating σ form.Held
  | plain => do
    match ← Serving.attempt InjectionScope.current with
    | .ok scope => pure scope
    | .error failure => throw (convert failure)
  | optional => do return (← Serving.attempt InjectionScope.current).toOption

/-- The scope that is held, if there is one. -/
def scope? : {form : ScopeForm} → form.Held → Option InjectionScope
  | plain, scope => some scope
  | optional, scope? => scope?

/-- Lets go of the scope that is held. -/
def leave {form : ScopeForm} (held : form.Held) : Serving σ ε Unit :=
  match scope? held with
  | some scope => scope.close
  | none => pure ()

end ScopeForm

namespace Lookup

variable {σ ε : Type} (meaning : Ty → TargetType)

/-- Reads a message property from a scope. -/
def propertyOf (scope : InjectionScope) (name : String) : TargetType → Option Value
  | .value type => scope.property name type
  | .object _ => none

/-- A property as it is bound to a variable. -/
def propertyArgument (target : TargetType) (orInitial : Bool) (found : Option Value) : Argument :=
  if orInitial then .property (found.getD target.initial) else .optionalProperty found

/-- Looks something up in a scope, given what types mean. -/
def run : {form : ScopeForm} → Lookup form → form.Held →
    Serving σ ε (Except Failure Argument × form.Held)
  | _, transport .context, scope =>
    pure ((InjectionScope.transport scope .context).map .transport, scope)
  | _, transport .request, scope =>
    pure ((InjectionScope.transport scope .request).map fun transport => .request transport.request,
      scope)
  | _, transport .response, scope =>
    pure ((InjectionScope.transport scope .response).map fun transport =>
      .response transport.response, scope)
  | .plain, property name target orInitial, scope =>
    pure (.ok (propertyArgument (meaning target) orInitial (propertyOf scope name (meaning target))),
      scope)
  | .optional, property name target orInitial, scope =>
    pure (.ok (propertyArgument (meaning target) orInitial
      (Option.bind scope fun scope => propertyOf scope name (meaning target))), scope)
  | _, service key target true, scope => do
    let (result, scope) ← InjectionScope.resolve scope fun session =>
      Resolution.require session ⟨(meaning target).typeName, key⟩
    return (result.map .service, scope)
  | _, service key target false, scope => do
    let (result, scope) ← InjectionScope.resolve scope fun session =>
      Resolution.find session ⟨(meaning target).typeName, key⟩
    return (result.map .optionalService, scope)

end Lookup

namespace WrapperBody

variable {σ ε : Type} (meaning : Ty → TargetType)

/-- The value of a variable. No code is generated that names a variable before it is bound. -/
def valueOf (bound : Keyed String Argument) (name : String) : Argument :=
  (bound.get? name).getD (.passed .unit)

/-- Binds variables to arguments. -/
def bindNames : List String → List Argument → Keyed String Argument → Keyed String Argument
  | name :: names, argument :: arguments, bound =>
    bindNames names arguments (bound.insert name argument)
  | _, _, bound => bound

/-- Runs statements one after another, up to the first whose look-up hands an error on. -/
def bindAll {form : ScopeForm} : List (ScopeStatement form) → form.Held → Keyed String Argument →
    Serving σ ε (Except Failure (Keyed String Argument) × form.Held)
  | [], scope, bound => pure (.ok bound, scope)
  | statement :: rest, scope, bound => do
    match ← statement.lookup.run meaning scope with
    | (.error failure, scope) => pure (.error failure, scope)
    | (.ok argument, scope) => bindAll rest scope (bound.insert statement.name argument)

/-- Runs the body of a method with named parameters, given what types mean, how the error of an
operation is made of a failure, and the method that is called. -/
def run (body : WrapperBody) (convert : Failure → OperationError)
    (implementation : Implementation σ) (parameters : List String) : Method σ := fun object passed =>
  let bound := bindNames parameters (passed.map .passed) .empty
  match body with
  | direct call => implementation object (call.arguments.map (valueOf bound))
  | @resolving form statements call => do
    let scope ← form.enter convert
    let (bound, scope) ← bindAll meaning statements scope bound
    let result ←
      match bound with
      | .error failure => pure (.error (convert failure))
      | .ok bound =>
        Serving.attempt (implementation object (call.arguments.map (valueOf bound)))
    ScopeForm.leave scope
    Serving.ofExcept result

/-- Names hold arguments. -/
def Holds (bound : Keyed String Argument) : List String → List Argument → Prop :=
  List.Forall₂ fun name argument => bound.get? name = some argument

section Variables

variable {names : List String} {arguments : List Argument} {bound : Keyed String Argument}

/-- Binding names touches no other name. -/
theorem get?_bindNames_of_notMem {other : String} (apart : other ∉ names) :
    (bindNames names arguments bound).get? other = bound.get? other := by
  induction names generalizing arguments bound with
  | nil => cases arguments <;> rfl
  | cons name names ih =>
    rw [List.mem_cons, not_or] at apart
    cases arguments with
    | nil => rfl
    | cons argument arguments =>
      rw [bindNames, ih apart.2, Keyed.get?_insert, if_neg fun same => apart.1 same.symm]

/-- Different names hold what they are bound to. -/
theorem holds_bindNames (distinct : names.Nodup) (length : names.length = arguments.length) :
    Holds (bindNames names arguments bound) names arguments := by
  induction names generalizing arguments bound with
  | nil =>
    obtain rfl := List.length_eq_zero_iff.mp length.symm
    exact .nil
  | cons name names ih =>
    rw [List.nodup_cons] at distinct
    cases arguments with
    | nil => cases length
    | cons argument arguments =>
      refine .cons ?_ (ih distinct.2 (by simpa using length))
      rw [bindNames, get?_bindNames_of_notMem distinct.1, Keyed.get?_insert, if_pos rfl]

/-- What names hold is held as well once other names are bound. -/
theorem Holds.bindNames (holds : Holds bound names arguments) {others : List String}
    (apart : ∀ name ∈ names, name ∉ others) (further : List Argument) :
    Holds (bindNames others further bound) names arguments := by
  induction holds with
  | nil => exact .nil
  | @cons name argument names arguments here _ ih =>
    rw [List.forall_mem_cons] at apart
    exact .cons ((get?_bindNames_of_notMem apart.1).trans here) (ih apart.2)

end Variables

/-- The names of the parameters that the caller supplies. -/
def visibleNames {τ : Type} (parameters : List (WrapperParameter τ)) : List String :=
  (parameters.filter (·.isContract)).map (·.name)

/-- The names of the other parameters. -/
def injectedNames {τ : Type} (parameters : List (WrapperParameter τ)) : List String :=
  (parameters.filter (! ·.isContract)).map (·.name)

theorem length_filter_isContract (plan : WrapperPlan Ty) :
    (plan.parameters.filter (! ·.isContract)).length = plan.injected.length := by
  rw [Wrapper.length_injected, List.countP_eq_length_filter]

theorem length_injectedNames (plan : WrapperPlan Ty) :
    (injectedNames plan.parameters).length = plan.injected.length := by
  rw [injectedNames, List.length_map, length_filter_isContract]

/-- The bindings of a plan are those of its injected parameters. -/
theorem filterMap_filter_isContract (plan : WrapperPlan Ty) :
    (plan.parameters.filter (! ·.isContract)).filterMap WrapperParameter.injected? =
      plan.injected := by
  rw [WrapperPlan.injected, List.filterMap_filter]
  refine List.filterMap_congr fun parameter _ => ?_
  cases found : parameter.injected? <;> simp [WrapperParameter.isContract, found]

section Parameters

variable {τ : Type} {parameters : List (WrapperParameter τ)}

/-- Variables that hold the values of the caller and the resolved ones hold them in the order of the
parameters. -/
theorem map_valueOf {bound : Keyed String Argument} {passed : List Value}
    {resolved : List Argument}
    (supplied : Holds bound (visibleNames parameters) (passed.map .passed))
    (injected : Holds bound (injectedNames parameters) resolved) :
    (parameters.map (·.name)).map (valueOf bound) =
      Wrapper.arrange parameters passed resolved := by
  induction parameters generalizing passed resolved with
  | nil => rfl
  | cons parameter rest ih =>
    obtain ⟨name, type, provision⟩ := parameter
    cases provision with
    | caller =>
      cases passed with
      | nil => cases supplied
      | cons value passed =>
        obtain ⟨here, others⟩ := List.forall₂_cons.mp supplied
        have rest := ih others injected
        rw [List.map_cons, List.map_cons, rest, valueOf, here, Option.getD_some]
        rfl
    | injected binding =>
      cases resolved with
      | nil => cases injected
      | cons argument resolved =>
        obtain ⟨here, others⟩ := List.forall₂_cons.mp injected
        have rest := ih supplied others
        rw [List.map_cons, List.map_cons, rest, valueOf, here, Option.getD_some]
        cases passed <;> rfl

variable (distinct : (parameters.map (·.name)).Nodup)

include distinct

theorem visibleNames_nodup : (visibleNames parameters).Nodup :=
  distinct.sublist (List.filter_sublist.map _)

theorem injectedNames_nodup : (injectedNames parameters).Nodup :=
  distinct.sublist (List.filter_sublist.map _)

/-- No parameter is both supplied by the caller and injected. -/
theorem notMem_injectedNames {name : String} (visible : name ∈ visibleNames parameters) :
    name ∉ injectedNames parameters := by
  intro injected
  obtain ⟨parameter, mem, rfl⟩ := List.mem_map.mp visible
  obtain ⟨other, mem', same⟩ := List.mem_map.mp injected
  rw [List.mem_filter] at mem mem'
  obtain rfl := List.inj_on_of_nodup_map distinct mem'.1 mem.1 same
  simp [mem.2] at mem'

/-- Once its injected parameters are bound as well, a body passes all arguments in the order of the
parameters. -/
theorem map_valueOf_bindNames {passed : List Value} {resolved : List Argument}
    (passes : passed.length = (visibleNames parameters).length)
    (resolves : resolved.length = (injectedNames parameters).length) :
    (parameters.map (·.name)).map (valueOf
        (bindNames (injectedNames parameters) resolved
          (bindNames (visibleNames parameters) (passed.map .passed) .empty))) =
      Wrapper.arrange parameters passed resolved := by
  have supplied : Holds (bindNames (visibleNames parameters) (passed.map .passed) .empty)
      (visibleNames parameters) (passed.map .passed) :=
    holds_bindNames (visibleNames_nodup distinct) (by simp [passes])
  have apart : ∀ name ∈ visibleNames parameters, name ∉ injectedNames parameters :=
    fun _ => notMem_injectedNames distinct
  exact map_valueOf (supplied.bindNames apart resolved)
    (holds_bindNames (injectedNames_nodup distinct) resolves.symm)

end Parameters

section Runs

variable {meaning} (services : Services σ)

/-- A request to a scope is answered, and so is one whose answer is changed. -/
theorem exists_run_resolve {α β : Type} (scope : InjectionScope)
    (request : Session → Resolution σ α) (change : α → β) (state : ServiceState σ) :
    ∃ result left after,
      (scope.resolve request : Serving σ ε _).run services state = (.ok (result, left), after) ∧
        (scope.resolve (fun session => request session >>= fun a => pure (change a)) :
            Serving σ ε _).run services state = (.ok (result.map change, left), after) := by
  obtain ⟨context, use⟩ := scope
  have changed := fun session container =>
    @Resolution.run_bind_pure σ α β services container (request session) change
  cases use with
  | ambient session =>
    simp only [InjectionScope.resolve, InjectionScope.session, Serving.run_bind, Serving.run_pure,
      Serving.run_resolving, changed]
    exact ⟨_, _, _, rfl, rfl⟩
  | isolated opened =>
    cases opened with
    | some id =>
      simp only [InjectionScope.resolve, InjectionScope.session, Serving.run_bind,
        Serving.run_pure, Serving.run_resolving, changed]
      exact ⟨_, _, _, rfl, rfl⟩
    | none =>
      simp only [InjectionScope.resolve, InjectionScope.session, Serving.run_bind,
        Serving.run_pure, Serving.run_resolving, Serving.run_report, Serving.run_openScope, changed]
      exact ⟨_, _, _, rfl, rfl⟩

/-- What a scope answers to a request is turned into an argument before or after the scope is asked,
which makes no difference. -/
theorem run_request {α : Type} {binding : Injected TargetType} {key : Option String}
    {request : Session → Resolution σ α} {change : α → Argument}
    (asks : Wrapper.serviceArgument binding key =
      fun session => request session >>= fun a => pure (change a))
    (scope : InjectionScope) (state : ServiceState σ) :
    ∃ result left after,
      (do
        let (result, scope) ← scope.resolve request
        return (result.map change, scope) : Serving σ ε _).run services state =
          (.ok (result, left), after) ∧
        (Wrapper.resolveService scope binding key : Serving σ ε _).run services state =
          (.ok (result, some left), after) := by
  obtain ⟨result, left, after, looked, resolved⟩ :=
    @exists_run_resolve σ ε services _ _ scope request change state
  refine ⟨result.map change, left, after, ?_, ?_⟩
  · rw [Serving.run_bind, looked]
    rfl
  · rw [Wrapper.resolveService, asks, Serving.run_bind, resolved]
    rfl

/-- A service is looked up as a wrapper resolves it. -/
theorem run_service (key : Option String) (target : Ty) (plan : ResolutionPlan)
    (isOptional : Bool) (scope : InjectionScope) (state : ServiceState σ) :
    ∃ result left after,
      ((Lookup.service key target !isOptional).run meaning scope : Serving σ ε _).run services
          state = (.ok (result, left), after) ∧
        (Wrapper.resolveService scope ⟨plan, meaning target, isOptional⟩ key :
            Serving σ ε _).run services state =
          (.ok (result, some left), after) := by
  cases isOptional with
  | true => exact run_request services rfl scope state
  | false => exact run_request services rfl scope state

theorem propertyArgument_eq (plan : ResolutionPlan) (target : TargetType) (isOptional : Bool)
    (found : Option Value) :
    Wrapper.propertyArgument ⟨plan, target, isOptional⟩ found =
      Lookup.propertyArgument target (!isOptional) found := by
  cases isOptional <;> rfl

theorem propertyValue_eq (held : Option InjectionScope) (name : String) (target : TargetType) :
    Wrapper.propertyValue held name target =
      held.bind fun scope => Lookup.propertyOf scope name target := by
  cases target <;> cases held <;> rfl

/-- A look-up answers what a wrapper with the binding resolves, and leaves the scope alike. -/
theorem run_lookup {form : ScopeForm} {lookup : Lookup form} {injected : Injected Ty}
    (serves : lookup.Serves injected) (held : form.Held) (state : ServiceState σ) :
    ∃ result left after,
      (lookup.run meaning held : Serving σ ε _).run services state = (.ok (result, left), after) ∧
        (Wrapper.resolve (ScopeForm.scope? held) (injected.map meaning) :
            Serving σ ε _).run services state =
          (.ok (result, ScopeForm.scope? left), after) := by
  cases serves with
  | @transport part => cases part <;> exact ⟨_, held, state, rfl, rfl⟩
  | @property _ name typeName target isOptional =>
    cases form with
    | plain =>
      refine ⟨_, held, state, rfl, ?_⟩
      simp only [Wrapper.resolve, Injected.map, propertyArgument_eq, propertyValue_eq]
      rfl
    | optional =>
      refine ⟨_, held, state, rfl, ?_⟩
      simp only [Wrapper.resolve, Injected.map, propertyArgument_eq, propertyValue_eq]
      rfl
  | keyedService => exact run_service services (some _) _ _ _ held state
  | defaultService => exact run_service services none _ _ _ held state

/-- Running statements in order is running the first one and, if its look-up succeeds, the others. -/
theorem run_bindAll_cons {form : ScopeForm} (statement : ScopeStatement form)
    (rest : List (ScopeStatement form)) (held : form.Held) (bound : Keyed String Argument)
    (state : ServiceState σ) :
    (bindAll meaning (statement :: rest) held bound : Serving σ ε _).run services state =
      match (statement.lookup.run meaning held : Serving σ ε _).run services state with
      | (.error error, after) => (.error error, after)
      | (.ok (.error failure, held), after) => (.ok (.error failure, held), after)
      | (.ok (.ok argument, held), after) =>
        (bindAll meaning rest held (bound.insert statement.name argument)).run services after := by
  rw [bindAll, Serving.run_bind]
  match (statement.lookup.run meaning held : Serving σ ε _).run services state with
  | (.error _, _) => rfl
  | (.ok (.error _, _), _) => rfl
  | (.ok (.ok _, _), _) => rfl

/-- Statements bind their variables to what a wrapper with their bindings resolves, and end where
that ends. -/
theorem run_bindAll {form : ScopeForm} {statements : List (ScopeStatement form)}
    {parameters : List (WrapperParameter Ty)}
    (binds : List.Forall₂ ScopeStatement.Binds statements parameters) (held : form.Held)
    (bound : Keyed String Argument) (state : ServiceState σ) :
    ∃ result left after,
      (bindAll meaning statements held bound : Serving σ ε _).run services state =
        (.ok (result.map fun arguments => bindNames (parameters.map (·.name)) arguments bound, left),
          after) ∧
        (Wrapper.resolveAll (ScopeForm.scope? held)
            ((parameters.filterMap WrapperParameter.injected?).map (Injected.map meaning)) :
            Serving σ ε _).run services state =
          (.ok (result, ScopeForm.scope? left), after) ∧
        ∀ arguments, result = .ok arguments → arguments.length = parameters.length := by
  induction binds generalizing held bound state with
  | nil =>
    refine ⟨.ok [], held, state, rfl, rfl, fun arguments same => ?_⟩
    rw [← Except.ok.inj same]
    rfl
  | @cons statement parameter statements parameters first _ ih =>
    cases first with
    | @injected name type injected lookup serves =>
      obtain ⟨result, left, middle, looked, resolved⟩ :=
        @run_lookup σ ε meaning services form lookup injected serves held state
      have resolving := @Wrapper.run_resolveAll_cons σ ε (ScopeForm.scope? held)
        (injected.map meaning)
        ((parameters.filterMap WrapperParameter.injected?).map (Injected.map meaning)) services
        state
      have binding := @run_bindAll_cons σ ε meaning services form ⟨name, type, lookup⟩ statements
        held bound state
      rw [resolved] at resolving
      rw [looked] at binding
      cases result with
      | error failure =>
        exact ⟨.error failure, left, middle, binding, resolving, nofun⟩
      | ok argument =>
        obtain ⟨result, left, after, others, further, length⟩ :=
          ih left (bound.insert name argument) middle
        dsimp only at binding resolving
        rw [further] at resolving
        rw [others] at binding
        cases result with
        | error failure => exact ⟨.error failure, left, after, binding, resolving, nofun⟩
        | ok arguments =>
          refine ⟨.ok (argument :: arguments), left, after, binding, resolving, fun _ same => ?_⟩
          rw [← Except.ok.inj same, List.length_cons, length _ rfl, List.length_cons]

variable {wrapper : Wrapper σ}

/-- A wrapper that needs a scope opens it in the form in which its body holds it. -/
theorem run_enter {use : ScopeUse} (opens : use ≠ .none) (state : ServiceState σ) :
    (wrapper.openScope use).run services state =
      ((((ScopeForm.ofUse use).enter wrapper.convert).run services state).1.map ScopeForm.scope?,
        (((ScopeForm.ofUse use).enter wrapper.convert).run services state).2) := by
  cases use with
  | none => exact absurd rfl opens
  | whenAvailable =>
    simp only [Wrapper.openScope, ScopeForm.ofUse, ScopeForm.enter, Serving.run_bind,
      Serving.run_attempt, Serving.run_pure]
    rfl
  | required =>
    simp only [Wrapper.openScope, ScopeForm.ofUse, ScopeForm.enter, Serving.run_bind,
      Serving.run_attempt]
    cases (InjectionScope.current.run services state).1 <;> rfl

theorem closeScope_eq {form : ScopeForm} (held : form.Held) :
    (Wrapper.closeScope (ScopeForm.scope? held) : Serving σ ε Unit) = ScopeForm.leave held := by
  rw [ScopeForm.leave]
  cases ScopeForm.scope? held <;> rfl

/-- The body that a plan asks for does what a wrapper with the plan does, if the variables of it are
apart. -/
theorem run_follows {body : WrapperBody} {plan : WrapperPlan Ty} (follows : body.Follows plan)
    (planned : wrapper.plan = plan.map meaning)
    (distinct : (plan.parameters.map (·.name)).Nodup) (object : InstanceId) {passed : List Value}
    (passes : passed.length = (visibleNames plan.parameters).length) (state : ServiceState σ) :
    (body.run meaning wrapper.convert wrapper.implementation (visibleNames plan.parameters) object
        passed).run services state =
      (wrapper.method object passed).run services state := by
  have parameters : wrapper.plan.parameters = plan.parameters.map (WrapperParameter.map meaning) :=
    congrArg WrapperPlan.parameters planned
  have bindings : wrapper.plan.injected = plan.injected.map (Injected.map meaning) := by
    rw [planned, WrapperPlan.injected_map]
  have arranged : ∀ {resolved : List Argument}, resolved.length = plan.injected.length →
      (plan.parameters.map (·.name)).map (valueOf
          (bindNames (injectedNames plan.parameters) resolved
            (bindNames (visibleNames plan.parameters) (passed.map .passed) .empty))) =
        Wrapper.arrange wrapper.plan.parameters passed resolved := by
    intro resolved length
    rw [parameters, Wrapper.arrange_map]
    exact map_valueOf_bindNames distinct passes (length.trans (length_injectedNames plan).symm)
  cases follows with
  | direct nothing =>
    have plain : wrapper.plan.injected = [] := by rw [bindings, nothing, List.map_nil]
    have unbound : injectedNames plan.parameters = [] :=
      List.length_eq_zero_iff.mp ((length_injectedNames plan).trans (by rw [nothing]; rfl))
    have arguments := @arranged [] (by rw [nothing]; rfl)
    rw [unbound] at arguments
    rw [Wrapper.run_method_direct (.inl plain), Wrapper.call, plain]
    exact congrArg (fun arguments => (wrapper.implementation object arguments).run services state)
      arguments
  | @resolving _ statements some binds =>
    have opens : plan.scopeUse ≠ .none := mt scopeUse_eq_none_iff.mp some
    have use : wrapper.plan.scopeUse = plan.scopeUse := by rw [planned, WrapperPlan.scopeUse_map]
    have entering := @run_enter σ services wrapper plan.scopeUse opens state
    rw [Wrapper.method, run]
    simp only [Serving.run_bind, use, entering, bindings]
    cases (((ScopeForm.ofUse plan.scopeUse).enter wrapper.convert).run services state) with
    | mk entered middle =>
      cases entered with
      | error error => rfl
      | ok held =>
        obtain ⟨result, left, after, bound, resolved, length⟩ := @run_bindAll σ OperationError meaning
          services _ statements _ binds held
          (bindNames (visibleNames plan.parameters) (passed.map .passed) .empty) middle
        rw [filterMap_filter_isContract] at resolved
        simp only [Except.map, bound, resolved]
        cases result with
        | error failure => simp only [Serving.run_bind, Serving.run_pure, closeScope_eq]
        | ok arguments =>
          have same := arranged ((length _ rfl).trans (length_filter_isContract plan))
          simp only [Serving.run_bind, Serving.run_attempt, closeScope_eq]
          rw [← same]
          rfl

end Runs

end WrapperBody

end Generate

end ServiceDispatch
