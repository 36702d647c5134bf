import ServiceDispatch.Proofs.Call.Bindings

/-!
# What a delegation wrapper does

Every way through a wrapper, for any parameters in any order and for any context of a call or none:
what is resolved, when the implementation is called and with which arguments, what the caller gets,
and what becomes of the session that the wrapper may have opened. The bindings that were reached
before the wrapper went on or gave up decide whether it opened one. What implementations do is left
open.
-/

namespace ServiceDispatch

variable {σ ε : Type}

/-- Which scopes have been opened so far, and which of them are still open. -/
def Container.openness (container : Container σ) : List Bool := container.scopes.map Scope.isOpen

namespace Wrapper

variable {services : Services σ} {context : OperationContext} {session : Session}
  {state : ServiceState σ} {reached : List (Injected TargetType)}

/-- Whether a call opens a session of its own: one of the bindings it has reached needs a session,
and the instance serves all calls. -/
def isolates (context : OperationContext) (reached : List (Injected TargetType)) : Bool :=
  context.hosting.isSingleton && reached.any (·.plan.readsContainer)

/-- The session that a call asks for services. -/
def sessionOf (context : OperationContext) (state : ServiceState σ) : Session :=
  if context.hosting.isSingleton then .scope state.container.nextScope
  else context.hosting.session

/-- The state in which the bindings that a call reaches are answered. -/
def begun (context : OperationContext) (reached : List (Injected TargetType))
    (state : ServiceState σ) : ServiceState σ :=
  if isolates context reached then state.isolate context.action else state

/-- What a call leaves behind: a session of its own is released, and nothing else happens. -/
def ended (context : OperationContext) (reached : List (Injected TargetType))
    (state final : ServiceState σ) : ServiceState σ :=
  if isolates context reached then
    { final with
      container :=
        (final.container.report (.sessionReleased context.action)).releaseScope
          state.container.nextScope }
  else final

/-- The scope of a call after the bindings that it has reached. -/
def scopeAfter (context : OperationContext) (reached : List (Injected TargetType))
    (state : ServiceState σ) : InjectionScope :=
  ⟨context,
    if context.hosting.isSingleton then
      .isolated (if reached.any (·.plan.readsContainer) then some state.container.nextScope
        else none)
    else .ambient context.hosting.session⟩

/-- A scope has the session that a binding needs once the binding is reached. -/
theorem scopeAfter_provides {injected : Injected TargetType} (mem : injected ∈ reached)
    (reads : injected.plan.readsContainer = true) :
    (scopeAfter context reached state).Provides (sessionOf context state) := by
  have needed : reached.any (·.plan.readsContainer) = true :=
    List.any_eq_true.mpr ⟨injected, mem, reads⟩
  cases singleton : context.hosting.isSingleton with
  | true => exact .inr ⟨state.container.nextScope, by simp [scopeAfter, singleton, needed],
      by simp [sessionOf, singleton]⟩
  | false => exact .inl (by simp [scopeAfter, sessionOf, singleton])

theorem run_closeScope_scopeAfter (final : ServiceState σ) :
    (closeScope (some (scopeAfter context reached state)) : Serving σ ε Unit).run services final =
      (.ok (), ended context reached state final) := by
  cases singleton : context.hosting.isSingleton <;>
    cases needed : reached.any (·.plan.readsContainer) <;>
      simp [closeScope, InjectionScope.close, scopeAfter, ended, isolates, singleton, needed,
        Serving.run_bind]

/-- A session of its own is the one scope that a call adds. -/
theorem openness_begun (context : OperationContext) (reached : List (Injected TargetType))
    (state : ServiceState σ) :
    (begun context reached state).container.openness =
      state.container.openness ++ if isolates context reached then [true] else [] := by
  cases isolated : isolates context reached <;>
    simp [begun, isolated, ServiceState.isolate, Container.openScope, Container.report,
      Container.openness]

/-- The session is released on the way out, whatever scopes were opened meanwhile. -/
theorem openness_ended {final : ServiceState σ} {added : List Bool}
    (kept : final.container.openness = (begun context reached state).container.openness ++ added) :
    (ended context reached state final).container.openness =
      state.container.openness ++ (if isolates context reached then [false] else []) ++ added := by
  rw [openness_begun] at kept
  cases isolated : isolates context reached with
  | false => simpa [ended, isolated] using kept
  | true =>
    have place : state.container.nextScope.index = state.container.openness.length := by
      simp [Container.nextScope, Container.openness]
    have released : (ended context reached state final).container.openness =
        final.container.openness.set state.container.nextScope.index false := by
      simp [ended, isolated, Container.releaseScope, Container.report, Container.openness]
    rw [released, kept, place, isolated]
    simp

/-- A session that the call is going to need may be opened before its first binding. -/
theorem run_resolveAll_enter {bindings rest : List (Injected TargetType)}
    {arguments : List Argument} {before after : Container σ}
    (reaches : reached = bindings ++ rest.take 1)
    (answered : Answered services context session before bindings arguments after) :
    (resolveAll (some (.enter context)) (bindings ++ rest) : Serving σ ε _).run services state =
      (resolveAll (some (scopeAfter context reached state)) (bindings ++ rest)).run services
        (begun context reached state) := by
  cases singleton : context.hosting.isSingleton with
  | false => simp [InjectionScope.enter, scopeAfter, begun, isolates, singleton]
  | true =>
    cases needed : reached.any (·.plan.readsContainer) with
    | false => simp [InjectionScope.enter, scopeAfter, begun, isolates, singleton, needed]
    | true =>
      have enters : InjectionScope.enter context = ⟨context, .isolated none⟩ := by
        simp [InjectionScope.enter, singleton]
      have opened : scopeAfter context reached state =
          ⟨context, .isolated (some state.container.nextScope)⟩ := by
        simp [scopeAfter, singleton, needed]
      have begins : begun context reached state = state.isolate context.action := by
        simp [begun, isolates, singleton, needed]
      rw [enters, opened, begins]
      refine answered.run_resolveAll_unopened ?_ state
      rw [reaches, List.any_append, Bool.or_eq_true] at needed
      refine needed.imp_right fun next => ?_
      cases rest with
      | nil => cases next
      | cons failing later => exact ⟨failing, later, rfl, by simpa using next⟩

/-- Bindings that are all answered give their arguments. -/
theorem run_resolveAll_answered {bindings : List (Injected TargetType)}
    {arguments : List Argument} {after : Container σ}
    (answered : Answered services context (sessionOf context state)
      (begun context bindings state).container bindings arguments after) :
    (resolveAll (some (.enter context)) bindings : Serving σ ε _).run services state =
      (.ok (.ok arguments, some (scopeAfter context bindings state)),
        { begun context bindings state with container := after }) := by
  let scope := scopeAfter context bindings state
  have provides : ∀ injected ∈ bindings, injected.plan.readsContainer = true →
      scope.Provides (sessionOf context state) :=
    fun injected mem reads => scopeAfter_provides mem reads
  have enters : (resolveAll (some (.enter context)) (bindings ++ []) :
      Serving σ ε _).run services state = _ :=
    run_resolveAll_enter (List.append_nil bindings).symm answered
  have goes : (resolveAll (some scope) (bindings ++ []) : Serving σ ε _).run services
      (begun context bindings state) = _ := answered.run_resolveAll provides [] rfl
  rw [List.append_nil] at enters goes
  rw [enters, goes]
  simp only [resolveAll, Serving.run_pure, Except.map, List.append_nil, scope]

/-- A binding that fails ends the resolution; later ones are not looked at. -/
theorem run_resolveAll_refused {failure : Failure} {after : Container σ}
    (refused : Refused services context (sessionOf context state)
      (begun context reached state).container reached failure after)
    (later : List (Injected TargetType)) :
    (resolveAll (some (.enter context)) (reached ++ later) : Serving σ ε _).run services state =
      (.ok (.error failure, some (scopeAfter context reached state)),
        { begun context reached state with container := after }) := by
  generalize same : begun context reached state = start at refused
  obtain @⟨middle, _, bindings, arguments, failing, _, former, fails⟩ := refused
  let scope := scopeAfter context (bindings ++ [failing]) state
  have provides : ∀ injected ∈ bindings ++ [failing], injected.plan.readsContainer = true →
      scope.Provides (sessionOf context state) :=
    fun injected mem reads => scopeAfter_provides mem reads
  have enters : (resolveAll (some (.enter context)) (bindings ++ failing :: later) :
      Serving σ ε _).run services state =
        (resolveAll (some scope) (bindings ++ failing :: later)).run services start := by
    rw [← same]
    exact run_resolveAll_enter rfl former
  have goes : (resolveAll (some scope) (bindings ++ failing :: later) :
      Serving σ ε _).run services start = _ :=
    former.run_resolveAll (fun injected mem => provides injected (List.mem_append_left _ mem))
      (failing :: later) rfl
  have needed := provides failing (List.mem_append_right _ List.mem_cons_self)
  have stops : (answer scope.context (sessionOf context state) failing).run services middle =
      (.error failure, after) := fails.run_answer
  rw [List.append_assoc, List.singleton_append, enters, goes, run_resolveAll_cons,
    run_resolve needed]
  dsimp only
  rw [stops]
  rfl

/-- Messages answer, or fail to answer, in any container alike. -/
theorem Answered.of_message {before after other : Container σ}
    {bindings : List (Injected TargetType)} {arguments : List Argument}
    (answered : Answered services context session before bindings arguments after)
    (message : bindings.any (·.plan.readsContainer) = false) :
    Answered services context session other bindings arguments other := by
  induction answered generalizing other with
  | nil => exact .nil other
  | @cons before middle after injected argument rest arguments first others ih =>
    rw [List.any_cons, Bool.or_eq_false_iff] at message
    exact .cons (first.of_message message.1) (ih message.2)

theorem Refused.of_message {before after other : Container σ} {failure : Failure}
    (refused : Refused services context session before reached failure after)
    (message : reached.any (·.plan.readsContainer) = false) :
    Refused services context session other reached failure other := by
  obtain @⟨middle, after, bindings, arguments, failing, failure, former, fails⟩ := refused
  rw [List.any_append, Bool.or_eq_false_iff, List.any_cons, List.any_nil, Bool.or_false] at message
  exact .last (former.of_message message.1) (fails.of_message message.2)

/-- A call either has all its bindings answered or reaches one that fails. -/
theorem answered_or_refused_begun (services : Services σ) (context : OperationContext)
    (state : ServiceState σ) (bindings : List (Injected TargetType)) :
    (∃ arguments after, Answered services context (sessionOf context state)
        (begun context bindings state).container bindings arguments after) ∨
      ∃ reached later failure after, bindings = reached ++ later ∧
        Refused services context (sessionOf context state)
          (begun context reached state).container reached failure after := by
  obtain all | ⟨reached, later, failure, after, split, refused⟩ :=
    answered_or_refused services context (sessionOf context state)
      (begun context bindings state).container bindings
  · exact .inl all
  · refine .inr ⟨reached, later, failure, ?_⟩
    cases needed : reached.any (·.plan.readsContainer) with
    | false => exact ⟨_, split, refused.of_message needed⟩
    | true =>
      have alike : begun context reached state = begun context bindings state := by
        simp [begun, isolates, split, needed]
      exact ⟨after, split, by rwa [alike]⟩

/-- The argument at a place: the caller's values and the resolved ones are each taken in order. -/
def argumentAt {τ : Type} (parameters : List (WrapperParameter τ)) (passed : List Value)
    (resolved : List Argument) (place : Nat) : Option Argument :=
  (parameters[place]?).bind fun parameter =>
    match parameter.provision with
    | .caller =>
      (passed[(parameters.take place).countP WrapperParameter.isContract]?).map .passed
    | .injected _ => resolved[(parameters.take place).countP (!·.isContract)]?

@[simp] theorem isContract_caller {τ : Type} (name : String) (type : τ) :
    (⟨name, type, .caller⟩ : WrapperParameter τ).isContract = true := rfl

@[simp] theorem isContract_injected {τ : Type} (name : String) (type : τ) (injected : Injected τ) :
    (⟨name, type, .injected injected⟩ : WrapperParameter τ).isContract = false := rfl

/-- Every parameter gets its argument, if there is a value for each of the caller's parameters and
one for each of the others. -/
theorem arrange_spec {τ : Type} {parameters : List (WrapperParameter τ)} {passed : List Value}
    {resolved : List Argument}
    (passes : passed.length = parameters.countP WrapperParameter.isContract)
    (resolves : resolved.length = parameters.countP (!·.isContract)) :
    (arrange parameters passed resolved).length = parameters.length ∧
      ∀ place, (arrange parameters passed resolved)[place]? =
        argumentAt parameters passed resolved place := by
  induction parameters generalizing passed resolved with
  | nil => exact ⟨rfl, fun place => by simp [arrange, argumentAt]⟩
  | cons parameter rest ih =>
    obtain ⟨name, type, provision⟩ := parameter
    cases provision with
    | caller =>
      cases passed with
      | nil => simp [List.countP_cons] at passes
      | cons value passed =>
        obtain ⟨length, others⟩ := @ih passed resolved (by simpa [List.countP_cons] using passes)
          (by simpa [List.countP_cons] using resolves)
        refine ⟨by simp [arrange, length], fun place => ?_⟩
        cases place with
        | zero => simp [arrange, argumentAt]
        | succ place => simpa [arrange, argumentAt, List.countP_cons] using others place
    | injected injected =>
      cases resolved with
      | nil => simp at resolves
      | cons argument resolved =>
        obtain ⟨length, others⟩ := @ih passed resolved (by simpa [List.countP_cons] using passes)
          (by simpa [List.countP_cons] using resolves)
        refine ⟨by simp [arrange, length], fun place => ?_⟩
        cases place with
        | zero => simp [arrange, argumentAt]
        | succ place => simpa [arrange, argumentAt, List.countP_cons] using others place

/-- There is a binding for each parameter that the caller does not supply. -/
theorem length_injected {τ : Type} (plan : WrapperPlan τ) :
    plan.injected.length = plan.parameters.countP (!·.isContract) := by
  obtain ⟨parameters, awaits⟩ := plan
  rw [WrapperPlan.injected, List.length_filterMap_eq_countP]
  refine List.countP_congr fun parameter _ => ?_
  cases found : parameter.injected? <;> simp [WrapperParameter.isContract, found]

variable {wrapper : Wrapper σ} {object : InstanceId} {passed : List Value}

/-- Calls the implementation with what the caller passed and what was resolved. -/
def call (wrapper : Wrapper σ) (object : InstanceId) (passed : List Value)
    (resolved : List Argument) : Operating σ Reply :=
  wrapper.implementation object (arrange wrapper.plan.parameters passed resolved)

/-- What a property comes to while no call is being served: nothing if it is optional, and else the
initial value of its type. -/
def absent (injected : Injected TargetType) : Argument :=
  if injected.isOptional then .optionalProperty none else .property injected.target.initial

/-- What a delegation wrapper does with a call, by the ways it may end. Every equation says what is
run and what the state is afterwards, so nothing else happens on that way, and an implementation
that is run is run once. -/
structure Delegates (wrapper : Wrapper σ) (services : Services σ) (state : ServiceState σ)
    (object : InstanceId) (passed : List Value) : Prop where
  /-- Without injected parameters the wrapper is the implementation. -/
  plain : wrapper.plan.injected = [] →
    (wrapper.method object passed).run services state =
      (wrapper.implementation object (passed.map .passed)).run services state
  /-- A wrapper whose bindings can fail needs a call that is being served. -/
  stranded : state.current = none → wrapper.plan.isFallible = true →
    (wrapper.method object passed).run services state =
      (.error (wrapper.convert .noOperationContext), state)
  /-- A wrapper of properties alone goes on without one. -/
  bare : state.current = none → wrapper.plan.isFallible = false →
    (wrapper.method object passed).run services state =
      (wrapper.call object passed (wrapper.plan.injected.map absent)).run services state
  /-- The first binding that fails decides the error. Later ones are not resolved, and the
  implementation is not run. -/
  refused : ∀ {context reached later failure after}, state.current = some context →
    wrapper.plan.injected = reached ++ later →
    Refused services context (sessionOf context state) (begun context reached state).container
      reached failure after →
    (wrapper.method object passed).run services state =
      (.error (wrapper.convert failure),
        ended context reached state { begun context reached state with container := after })
  /-- If all bindings are answered, the implementation is run with the answers, and its result is
  the wrapper's. -/
  served : ∀ {context arguments after}, state.current = some context →
    wrapper.plan.injected ≠ [] →
    Answered services context (sessionOf context state)
      (begun context wrapper.plan.injected state).container wrapper.plan.injected arguments after →
    arguments.length = wrapper.plan.injected.length ∧
      (wrapper.method object passed).run services state =
        (((wrapper.call object passed arguments).run services
            { begun context wrapper.plan.injected state with container := after }).1,
          ended context wrapper.plan.injected state
            ((wrapper.call object passed arguments).run services
              { begun context wrapper.plan.injected state with container := after }).2)
  /-- There is no other way while a call is being served. -/
  decided : ∀ context,
    (∃ arguments after, Answered services context (sessionOf context state)
        (begun context wrapper.plan.injected state).container wrapper.plan.injected
        arguments after) ∨
      ∃ reached later failure after, wrapper.plan.injected = reached ++ later ∧
        Refused services context (sessionOf context state)
          (begun context reached state).container reached failure after
  /-- The implementation gets every value of the caller and every answer in its own place. -/
  placed : ∀ {resolved : List Argument}, resolved.length = wrapper.plan.injected.length →
    (arrange wrapper.plan.parameters passed resolved).length = wrapper.plan.parameters.length ∧
      ∀ place, (arrange wrapper.plan.parameters passed resolved)[place]? =
        argumentAt wrapper.plan.parameters passed resolved place
  /-- A session is opened for the call if a binding to the container is reached on an instance that
  serves all calls, and in no other case. -/
  opens : ∀ context reached, (begun context reached state).container.openness =
    state.container.openness ++
      if context.hosting.isSingleton && reached.any (·.plan.readsContainer) then [true] else []
  /-- Answering bindings opens and releases nothing. -/
  keeps : ∀ {context reached before after},
    (∃ arguments, Answered services context (sessionOf context state) before reached
        arguments after) ∨
      (∃ failure, Refused services context (sessionOf context state) before reached
        failure after) →
    after.openness = before.openness
  /-- A session that was opened for the call is released at the end of it, whatever scopes were
  opened in between. -/
  releases : ∀ {context reached final added},
    final.container.openness = (begun context reached state).container.openness ++ added →
    (ended context reached state final).container.openness =
      state.container.openness ++
        (if context.hosting.isSingleton && reached.any (·.plan.readsContainer) then [false]
          else []) ++ added

/-- The scope of a wrapper that injects something while a call is being served. -/
theorem run_openScope (serving : state.current = some context)
    (injects : wrapper.plan.injected ≠ []) :
    (wrapper.openScope wrapper.plan.scopeUse).run services state =
      (.ok (some (.enter context)), state) := by
  have current : (InjectionScope.current : Run σ InjectionScope).run services state =
      (.ok (.enter context), state) := by
    simp only [InjectionScope.current, Serving.run_bind, Serving.run_get, serving, Serving.run_pure]
  have notEmpty : wrapper.plan.injected.isEmpty = false := by simpa using injects
  rw [WrapperPlan.scopeUse, notEmpty]
  cases wrapper.plan.isFallible with
  | true =>
    simp only [Bool.false_eq_true, if_false, if_true, openScope, Serving.run_bind,
      Serving.run_attempt, current, Serving.run_pure]
  | false =>
    simp only [Bool.false_eq_true, if_false, openScope, Serving.run_bind, Serving.run_attempt,
      current, Serving.run_pure, Except.toOption]

/-- No scope can be opened without a call that is being served. -/
theorem run_current_of_none (idle : state.current = none) :
    (InjectionScope.current : Run σ InjectionScope).run services state =
      (.error .noOperationContext, state) := by
  simp only [InjectionScope.current, Serving.run_bind, Serving.run_get, idle, Serving.run_throw]

/-- Properties are absent without a scope. -/
theorem run_resolveAll_none {bindings : List (Injected TargetType)}
    (properties : bindings.any (·.plan.isFallible) = false) :
    (resolveAll none bindings : Serving σ ε _).run services state =
      (.ok (.ok (bindings.map absent), none), state) := by
  induction bindings with
  | nil => rfl
  | cons injected rest ih =>
    rw [List.any_cons, Bool.or_eq_false_iff] at properties
    obtain ⟨plan, target, isOptional⟩ := injected
    cases plan with
    | messageProperty name typeName =>
      rw [run_resolveAll_cons]
      simp only [resolve, Serving.run_pure]
      rw [ih properties.2]
      cases target <;> rfl
    | transport part => cases properties.1
    | keyedService name => cases properties.1
    | defaultService => cases properties.1

/-- Without injected parameters the arguments are what the caller passed. -/
theorem arrange_of_injected_eq_nil (plain : wrapper.plan.injected = [])
    (passes : passed.length = wrapper.plan.parameters.countP WrapperParameter.isContract) :
    arrange wrapper.plan.parameters passed [] = passed.map .passed := by
  rw [WrapperPlan.injected, List.filterMap_eq_nil_iff] at plain
  generalize wrapper.plan.parameters = parameters at plain passes
  induction parameters generalizing passed with
  | nil =>
    obtain rfl : passed = [] := List.length_eq_zero_iff.mp passes
    rfl
  | cons parameter rest ih =>
    obtain ⟨name, type, provision⟩ := parameter
    cases provision with
    | injected injected => cases plain _ List.mem_cons_self
    | caller =>
      cases passed with
      | nil => simp [List.countP_cons] at passes
      | cons value passed =>
        have others := @ih passed
          (fun parameter mem => plain parameter (List.mem_cons_of_mem _ mem))
          (by simpa [List.countP_cons] using passes)
        simp [arrange, others]

/-- Without injected parameters, or with properties alone while no call is being served, the
implementation is run at once. -/
theorem run_method_direct
    (direct : wrapper.plan.injected = [] ∨ state.current = none ∧ wrapper.plan.isFallible = false) :
    (wrapper.method object passed).run services state =
      (wrapper.call object passed (wrapper.plan.injected.map absent)).run services state := by
  have infallible : wrapper.plan.isFallible = false := by
    obtain plain | ⟨-, infallible⟩ := direct
    · rw [WrapperPlan.isFallible, plain, List.any_nil]
    · exact infallible
  have opening : (wrapper.openScope wrapper.plan.scopeUse).run services state =
      (.ok none, state) := by
    rw [WrapperPlan.scopeUse, infallible]
    obtain plain | ⟨idle, -⟩ := direct
    · rw [plain]
      rfl
    · cases wrapper.plan.injected.isEmpty with
      | true => rfl
      | false =>
        simp only [Bool.false_eq_true, if_false, openScope, Serving.run_bind, Serving.run_attempt,
          run_current_of_none idle, Serving.run_pure, Except.toOption]
  simp only [method, Serving.run_bind, opening, run_resolveAll_none infallible,
    Serving.run_attempt, closeScope, Serving.run_pure, Serving.run_ofExcept, call]

/-- A wrapper whose bindings can fail does nothing while no call is being served. -/
theorem run_method_stranded (idle : state.current = none)
    (fallible : wrapper.plan.isFallible = true) :
    (wrapper.method object passed).run services state =
      (.error (wrapper.convert .noOperationContext), state) := by
  have injects : wrapper.plan.injected ≠ [] := by
    intro none_injected
    simp [WrapperPlan.isFallible, none_injected] at fallible
  have use : wrapper.plan.scopeUse = .required := by
    simp [WrapperPlan.scopeUse, injects, fallible]
  simp only [method, use, openScope, Serving.run_bind, Serving.run_attempt,
    run_current_of_none idle, Serving.run_throw]

/-- A binding that fails ends the call, and the session of the call is let go. -/
theorem run_method_refused (serving : state.current = some context)
    {later : List (Injected TargetType)} {failure : Failure} {after : Container σ}
    (split : wrapper.plan.injected = reached ++ later)
    (refused : Refused services context (sessionOf context state)
      (begun context reached state).container reached failure after) :
    (wrapper.method object passed).run services state =
      (.error (wrapper.convert failure),
        ended context reached state { begun context reached state with container := after }) := by
  have injects : wrapper.plan.injected ≠ [] := by
    obtain ⟨former, fails⟩ := refused
    simp [split]
  have resolving := run_resolveAll_refused (ε := OperationError) refused
  rw [method]
  simp only [Serving.run_bind, run_openScope serving injects, split, resolving, Serving.run_pure,
    run_closeScope_scopeAfter, Serving.run_ofExcept]

/-- With all bindings answered the implementation is run, and then the session of the call is let
go. -/
theorem run_method_served (serving : state.current = some context)
    (injects : wrapper.plan.injected ≠ []) {arguments : List Argument} {after : Container σ}
    (answered : Answered services context (sessionOf context state)
      (begun context wrapper.plan.injected state).container wrapper.plan.injected arguments
      after) :
    (wrapper.method object passed).run services state =
      (((wrapper.call object passed arguments).run services
          { begun context wrapper.plan.injected state with container := after }).1,
        ended context wrapper.plan.injected state
          ((wrapper.call object passed arguments).run services
            { begun context wrapper.plan.injected state with container := after }).2) := by
  have resolving := run_resolveAll_answered (ε := OperationError) answered
  simp only [method, Serving.run_bind, run_openScope serving injects, resolving,
    Serving.run_attempt, run_closeScope_scopeAfter, Serving.run_ofExcept, call]

/-- Every delegation wrapper does with every call what it has to. -/
theorem method_delegates
    (passes : passed.length = wrapper.plan.parameters.countP WrapperParameter.isContract) :
    wrapper.Delegates services state object passed where
  plain plain := by
    rw [run_method_direct (.inl plain), call, plain, List.map_nil,
      arrange_of_injected_eq_nil plain passes]
  stranded idle fallible := run_method_stranded idle fallible
  bare idle infallible := run_method_direct (.inr ⟨idle, infallible⟩)
  refused serving split refused := run_method_refused serving split refused
  served serving injects answered :=
    ⟨answered.length_eq, run_method_served serving injects answered⟩
  decided context := answered_or_refused_begun services context state wrapper.plan.injected
  placed resolves := arrange_spec passes (resolves.trans (length_injected wrapper.plan))
  opens context reached := openness_begun context reached state
  keeps ends := by
    obtain ⟨arguments, answered⟩ | ⟨failure, refused⟩ := ends
    · exact answered.reaches.grows.scopes
    · exact refused.reaches.grows.scopes
  releases kept := openness_ended kept

end Wrapper

end ServiceDispatch
