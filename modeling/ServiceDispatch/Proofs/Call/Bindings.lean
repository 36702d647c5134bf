import ServiceDispatch.Call.Wrapper
import ServiceDispatch.Proofs.Call.Running
import ServiceDispatch.Proofs.Service.Growth

/-!
# Resolving the bindings of a wrapper

What resolving bindings in order comes to, told without an injection scope: each binding is answered
by the properties of the message or by one session, in the container that the bindings before it
left behind. A scope with a session of its own opens it at the first binding that needs one; opening
it at the start makes no difference, and the lemmas here rest on that.
-/

namespace ServiceDispatch

variable {σ ε : Type}

/-- The identity of the scope that is opened next. -/
def Container.nextScope (container : Container σ) : ScopeId := ⟨container.scopes.length⟩

/-- The state in which a call has opened a session of its own. -/
def ServiceState.isolate (state : ServiceState σ) (action : String) : ServiceState σ :=
  { state with container := (state.container.report (.sessionIsolated action)).openScope.2 }

namespace InjectionScope

variable {scope : InjectionScope} {session : Session}

/-- The scope asks a session for services and need not open it. -/
def Provides (scope : InjectionScope) (session : Session) : Prop :=
  scope.use = .ambient session ∨ ∃ id, scope.use = .isolated (some id) ∧ session = .scope id

theorem Provides.run_resolve (provides : scope.Provides session) {α : Type}
    (request : Session → Resolution σ α) (services : Services σ) (state : ServiceState σ) :
    (scope.resolve request : Serving σ ε _).run services state =
      (.ok (((request session).run services state.container).1, scope),
        { state with container := ((request session).run services state.container).2 }) := by
  obtain ambient | ⟨id, isolated, rfl⟩ := provides
  · simp only [resolve, InjectionScope.session, ambient, Serving.run_bind, Serving.run_pure,
      Serving.run_resolving]
  · simp only [resolve, InjectionScope.session, isolated, Serving.run_bind, Serving.run_pure,
      Serving.run_resolving]

/-- A session that has not been opened is opened by the first request. -/
theorem run_resolve_unopened (context : OperationContext) {α : Type}
    (request : Session → Resolution σ α) (services : Services σ) (state : ServiceState σ) :
    (resolve ⟨context, .isolated none⟩ request : Serving σ ε _).run services state =
      (resolve ⟨context, .isolated (some state.container.nextScope)⟩ request).run services
        (state.isolate context.action) := by
  simp only [resolve, InjectionScope.session, Serving.run_bind, Serving.run_pure,
    Serving.run_resolving, Serving.run_report, Serving.run_openScope]
  rfl

end InjectionScope

/-- The key under which a binding asks for a service, if it is bound to one. -/
def Injected.key? (injected : Injected TargetType) : Option ServiceKey :=
  match injected.plan with
  | .keyedService name => some ⟨injected.target.typeName, some name⟩
  | .defaultService => some ⟨injected.target.typeName, none⟩
  | _ => none

namespace Wrapper

variable {services : Services σ} {context : OperationContext} {session : Session}

/-- A message has a property of a name and a type. -/
inductive Carries (properties : Properties) (name : String) : TargetType → Value → Prop where
  /-- It was set to a value of the type. -/
  | value {type : ValueType} {value : Value} (set : properties.get? name type = some value) :
      Carries properties name (.value type) value

/-- What a binding of a call is answered, and what that leaves in the container: the properties of
the message answer for themselves and for the transport state, and a session answers for
services. -/
inductive Answers (services : Services σ) (context : OperationContext) (session : Session) :
    Container σ → Injected TargetType → Except Failure Argument → Container σ → Prop where
  /-- The transport state is there. -/
  | transportContext {container : Container σ} {target : TargetType} {isOptional : Bool}
      {transport : TransportContext} (set : context.properties.transport? = some transport) :
      Answers services context session container ⟨.transport .context, target, isOptional⟩
        (.ok (.transport transport)) container
  /-- Its request is asked for. -/
  | transportRequest {container : Container σ} {target : TargetType} {isOptional : Bool}
      {transport : TransportContext} (set : context.properties.transport? = some transport) :
      Answers services context session container ⟨.transport .request, target, isOptional⟩
        (.ok (.request transport.request)) container
  /-- The handle of its response is asked for. -/
  | transportResponse {container : Container σ} {target : TargetType} {isOptional : Bool}
      {transport : TransportContext} (set : context.properties.transport? = some transport) :
      Answers services context session container ⟨.transport .response, target, isOptional⟩
        (.ok (.response transport.response)) container
  /-- The message carries no transport state. -/
  | noTransport {container : Container σ} {part : TransportPart} {target : TargetType}
      {isOptional : Bool} (unset : context.properties.transport? = none) :
      Answers services context session container ⟨.transport part, target, isOptional⟩
        (.error (.missingTransportContext part.display)) container
  /-- The property is there. -/
  | property {container : Container σ} {name typeName : String} {target : TargetType}
      {value : Value} (carries : Carries context.properties name target value) :
      Answers services context session container ⟨.messageProperty name typeName, target, false⟩
        (.ok (.property value)) container
  /-- It is not, and the initial value of its type stands for it. -/
  | noProperty {container : Container σ} {name typeName : String} {target : TargetType}
      (lacks : ∀ value, ¬ Carries context.properties name target value) :
      Answers services context session container ⟨.messageProperty name typeName, target, false⟩
        (.ok (.property target.initial)) container
  /-- An optional property is there, -/
  | optionalProperty {container : Container σ} {name typeName : String} {target : TargetType}
      {value : Value} (carries : Carries context.properties name target value) :
      Answers services context session container ⟨.messageProperty name typeName, target, true⟩
        (.ok (.optionalProperty (some value))) container
  /-- or it is not. -/
  | noOptionalProperty {container : Container σ} {name typeName : String} {target : TargetType}
      (lacks : ∀ value, ¬ Carries context.properties name target value) :
      Answers services context session container ⟨.messageProperty name typeName, target, true⟩
        (.ok (.optionalProperty none)) container
  /-- The session has the service that has to be there, or builds it. -/
  | service {before after : Container σ} {injected : Injected TargetType} {key : ServiceKey}
      {object : InstanceId} (named : injected.key? = some key)
      (required : injected.isOptional = false)
      (found : (Resolution.require session key).run services before = (.ok object, after)) :
      Answers services context session before injected (.ok (.service object)) after
  /-- It cannot hand it out. -/
  | noService {before after : Container σ} {injected : Injected TargetType} {key : ServiceKey}
      {failure : Failure} (named : injected.key? = some key)
      (required : injected.isOptional = false)
      (fails : (Resolution.require session key).run services before = (.error failure, after)) :
      Answers services context session before injected (.error failure) after
  /-- An optional service is found, or is not registered. -/
  | optionalService {before after : Container σ} {injected : Injected TargetType}
      {key : ServiceKey} {found : Option InstanceId} (named : injected.key? = some key)
      (optional : injected.isOptional = true)
      (looked : (Resolution.find session key).run services before = (.ok found, after)) :
      Answers services context session before injected (.ok (.optionalService found)) after
  /-- It is registered, but cannot be built. -/
  | noOptionalService {before after : Container σ} {injected : Injected TargetType}
      {key : ServiceKey} {failure : Failure} (named : injected.key? = some key)
      (optional : injected.isOptional = true)
      (fails : (Resolution.find session key).run services before = (.error failure, after)) :
      Answers services context session before injected (.error failure) after

/-- The answer to a binding, computed in the way of a wrapper: from the message of a call, or with a
service of a session. -/
def answer (context : OperationContext) (session : Session) (injected : Injected TargetType) :
    Resolution σ Argument :=
  match injected.plan with
  | .messageProperty name _ =>
    pure (propertyArgument injected (propertyValue (some (.enter context)) name injected.target))
  | .transport part =>
    match context.properties.transport? with
    | some transport => pure (transportArgument transport part)
    | none => throw (.missingTransportContext part.display)
  | .keyedService name => serviceArgument injected (some name) session
  | .defaultService => serviceArgument injected none session

/-- Bindings are answered one after another, each in the container that the former ones left. -/
inductive Answered (services : Services σ) (context : OperationContext) (session : Session) :
    Container σ → List (Injected TargetType) → List Argument → Container σ → Prop where
  /-- There is nothing to answer. -/
  | nil (container : Container σ) : Answered services context session container [] [] container
  /-- A binding is answered before the others. -/
  | cons {before middle after : Container σ} {injected : Injected TargetType}
      {argument : Argument} {rest : List (Injected TargetType)} {arguments : List Argument}
      (first : Answers services context session before injected (.ok argument) middle)
      (others : Answered services context session middle rest arguments after) :
      Answered services context session before (injected :: rest) (argument :: arguments) after

/-- Bindings are answered up to the last of them, which fails. -/
inductive Refused (services : Services σ) (context : OperationContext) (session : Session) :
    Container σ → List (Injected TargetType) → Failure → Container σ → Prop where
  /-- The last binding fails, in the container that the answers before it left. -/
  | last {before middle after : Container σ} {answered : List (Injected TargetType)}
      {arguments : List Argument} {failing : Injected TargetType} {failure : Failure}
      (former : Answered services context session before answered arguments middle)
      (fails : Answers services context session middle failing (.error failure) after) :
      Refused services context session before (answered ++ [failing]) failure after

theorem propertyValue_eq_some_iff {name : String} {target : TargetType} {value : Value} :
    propertyValue (some (.enter context)) name target = some value ↔
      Carries context.properties name target value := by
  cases target with
  | object typeName => exact iff_of_false nofun fun carries => by cases carries
  | value type => exact ⟨.value, fun carries => by cases carries; assumption⟩

theorem propertyValue_eq_none_iff {name : String} {target : TargetType} :
    propertyValue (some (.enter context)) name target = none ↔
      ∀ value, ¬ Carries context.properties name target value := by
  simp only [Option.eq_none_iff_forall_ne_some, ne_eq, propertyValue_eq_some_iff]

theorem run_serviceArgument (injected : Injected TargetType) (name : Option String)
    (container : Container σ) :
    (serviceArgument injected name session).run services container =
      let key : ServiceKey := ⟨injected.target.typeName, name⟩
      if injected.isOptional then
        (((Resolution.find session key).run services container).1.map .optionalService,
          ((Resolution.find session key).run services container).2)
      else
        (((Resolution.require session key).run services container).1.map .service,
          ((Resolution.require session key).run services container).2) := by
  rw [serviceArgument]
  cases injected.isOptional with
  | true => simp only [if_true, Resolution.run_bind_pure]
  | false => simp only [Bool.false_eq_true, if_false, Resolution.run_bind_pure]

/-- A binding to a service is answered by looking its key up. -/
theorem run_answer_of_key? {injected : Injected TargetType} {key : ServiceKey}
    (named : injected.key? = some key) (container : Container σ) :
    (answer context session injected).run services container =
      if injected.isOptional then
        (((Resolution.find session key).run services container).1.map .optionalService,
          ((Resolution.find session key).run services container).2)
      else
        (((Resolution.require session key).run services container).1.map .service,
          ((Resolution.require session key).run services container).2) := by
  obtain ⟨plan, target, isOptional⟩ := injected
  cases plan with
  | messageProperty name typeName => cases named
  | transport part => cases named
  | keyedService name =>
    obtain rfl := Option.some.inj named
    exact run_serviceArgument _ (some name) container
  | defaultService =>
    obtain rfl := Option.some.inj named
    exact run_serviceArgument _ none container

/-- The computed answer is one. -/
theorem answers_answer (services : Services σ) (context : OperationContext) (session : Session)
    (container : Container σ) (injected : Injected TargetType) :
    Answers services context session container injected
      ((answer context session injected).run services container).1
      ((answer context session injected).run services container).2 := by
  have serviced : ∀ {key}, injected.key? = some key →
      Answers services context session container injected
        ((answer context session injected).run services container).1
        ((answer context session injected).run services container).2 := by
    intro key named
    rw [run_answer_of_key? named]
    cases optional : injected.isOptional with
    | true =>
      cases looked : (Resolution.find session key).run services container with
      | mk result after =>
        cases result with
        | ok found => exact .optionalService named optional looked
        | error failure => exact .noOptionalService named optional looked
    | false =>
      cases looked : (Resolution.require session key).run services container with
      | mk result after =>
        cases result with
        | ok object => exact .service named optional looked
        | error failure => exact .noService named optional looked
  obtain ⟨plan, target, isOptional⟩ := injected
  cases plan with
  | keyedService name => exact serviced rfl
  | defaultService => exact serviced rfl
  | transport part =>
    rw [answer]
    cases set : context.properties.transport? with
    | none => exact .noTransport set
    | some transport =>
      cases part with
      | context => exact .transportContext set
      | request => exact .transportRequest set
      | response => exact .transportResponse set
  | messageProperty name typeName =>
    cases found : propertyValue (some (.enter context)) name target with
    | none =>
      have lacks := propertyValue_eq_none_iff.mp found
      simp only [answer, found]
      cases isOptional with
      | true => exact .noOptionalProperty lacks
      | false => exact .noProperty lacks
    | some value =>
      have carries := propertyValue_eq_some_iff.mp found
      simp only [answer, found]
      cases isOptional with
      | true => exact .optionalProperty carries
      | false => exact .property carries

/-- Nothing else is an answer. -/
theorem Answers.run_answer {before after : Container σ} {injected : Injected TargetType}
    {result : Except Failure Argument}
    (answers : Answers services context session before injected result after) :
    (answer context session injected).run services before = (result, after) := by
  cases answers with
  | transportContext set | transportRequest set | transportResponse set | noTransport set =>
    simp only [answer, set]
    rfl
  | property carries | optionalProperty carries =>
    simp only [answer, propertyValue_eq_some_iff.mpr carries]
    rfl
  | noProperty lacks | noOptionalProperty lacks =>
    simp only [answer, propertyValue_eq_none_iff.mpr lacks]
    rfl
  | service named required found | noService named required found =>
    simp only [run_answer_of_key? named, required, Bool.false_eq_true, if_false, found, Except.map]
  | optionalService named optional looked | noOptionalService named optional looked =>
    simp only [run_answer_of_key? named, optional, if_true, looked, Except.map]

theorem answers_iff {before after : Container σ} {injected : Injected TargetType}
    {result : Except Failure Argument} :
    Answers services context session before injected result after ↔
      (answer context session injected).run services before = (result, after) := by
  refine ⟨Answers.run_answer, fun same => ?_⟩
  have answers := answers_answer services context session before injected
  rwa [same] at answers

/-- The message answers a binding whatever the container holds, and leaves it as it is. -/
theorem run_answer_of_message {injected : Injected TargetType}
    (message : injected.plan.readsContainer = false) :
    ∃ result, ∀ (session : Session) (services : Services σ) (container : Container σ),
      (answer context session injected).run services container = (result, container) := by
  obtain ⟨plan, target, isOptional⟩ := injected
  cases plan with
  | messageProperty name typeName => exact ⟨_, fun _ _ _ => rfl⟩
  | transport part =>
    cases found : context.properties.transport? with
    | some transport => exact ⟨_, fun _ _ _ => by simp only [answer, found]; rfl⟩
    | none => exact ⟨_, fun _ _ _ => by simp only [answer, found]; rfl⟩
  | keyedService name => cases message
  | defaultService => cases message

/-- A message answers a binding, or fails to, in any container alike. -/
theorem Answers.of_message {before after other : Container σ} {injected : Injected TargetType}
    {result : Except Failure Argument}
    (answers : Answers services context session before injected result after)
    (message : injected.plan.readsContainer = false) :
    Answers services context session other injected result other := by
  obtain ⟨result', same⟩ := run_answer_of_message (σ := σ) message
  have answered := answers.run_answer
  rw [same] at answered
  rw [answers_iff, same, show result' = result from congrArg Prod.fst answered]

/-- Services are asked for by steps of resolutions. -/
theorem reaches_serviceArgument (injected : Injected TargetType) (name : Option String)
    (session : Session) (services : Services σ) (container : Container σ) :
    Container.Reaches services session container
      ((serviceArgument injected name session).run services container).2 := by
  rw [run_serviceArgument]
  cases injected.isOptional with
  | true => exact Resolution.findsBySteps_find services session _ container
  | false => exact Resolution.reaches_require session _ container

/-- Answering a binding is a resolution in the session, if it is anything to the container. -/
theorem reaches_answer (injected : Injected TargetType) (services : Services σ)
    (container : Container σ) :
    Container.Reaches services session container
      ((answer context session injected).run services container).2 := by
  cases reads : injected.plan.readsContainer with
  | false =>
    obtain ⟨result, same⟩ := run_answer_of_message reads
    rw [same]
    exact Container.Reaches.refl container
  | true =>
    obtain ⟨plan, target, isOptional⟩ := injected
    cases plan with
    | messageProperty name typeName => cases reads
    | transport part => cases reads
    | keyedService name => exact reaches_serviceArgument _ (some name) session services container
    | defaultService => exact reaches_serviceArgument _ none session services container

theorem Answered.reaches {before after : Container σ} {bindings : List (Injected TargetType)}
    {arguments : List Argument}
    (answered : Answered services context session before bindings arguments after) :
    Container.Reaches services session before after := by
  induction answered with
  | nil container => exact Container.Reaches.refl container
  | @cons before middle after injected argument rest arguments first others ih =>
    have reaches : Container.Reaches services session before
        ((answer context session injected).run services before).2 :=
      reaches_answer injected services before
    rw [first.run_answer] at reaches
    exact reaches.trans ih

theorem Refused.reaches {before after : Container σ} {bindings : List (Injected TargetType)}
    {failure : Failure} (refused : Refused services context session before bindings failure after) :
    Container.Reaches services session before after := by
  obtain @⟨middle, _, _, _, failing, _, former, fails⟩ := refused
  have reaches : Container.Reaches services session middle
      ((answer context session failing).run services middle).2 :=
    reaches_answer failing services middle
  rw [fails.run_answer] at reaches
  exact former.reaches.trans reaches

theorem Answered.length_eq {before after : Container σ} {bindings : List (Injected TargetType)}
    {arguments : List Argument}
    (answered : Answered services context session before bindings arguments after) :
    arguments.length = bindings.length := by
  induction answered with
  | nil => rfl
  | cons first others ih => simp only [List.length_cons, ih]

/-- Some bindings are answered, or a first one fails; what is reached of them is fixed by that. -/
theorem answered_or_refused (services : Services σ) (context : OperationContext)
    (session : Session) (container : Container σ) (bindings : List (Injected TargetType)) :
    (∃ arguments after, Answered services context session container bindings arguments after) ∨
      ∃ reached later failure after, bindings = reached ++ later ∧
        Refused services context session container reached failure after := by
  induction bindings generalizing container with
  | nil => exact .inl ⟨[], container, .nil container⟩
  | cons injected rest ih =>
    have first := answers_answer services context session container injected
    generalize (answer context session injected).run services container = answered at first
    obtain ⟨result, middle⟩ := answered
    cases result with
    | error failure =>
      exact .inr ⟨[injected], rest, failure, middle, rfl, .last (.nil container) first⟩
    | ok argument =>
      obtain ⟨arguments, after, others⟩ | ⟨reached, later, failure, after, split, refused⟩ :=
        ih middle
      · exact .inl ⟨argument :: arguments, after, .cons first others⟩
      · obtain ⟨former, fails⟩ := refused
        exact .inr ⟨_, later, failure, after, by rw [split]; rfl, .last (.cons first former) fails⟩

/-- A scope resolves a binding to its answer, unless it would have to open a session for it. -/
theorem run_resolve {scope : InjectionScope} {injected : Injected TargetType}
    (provides : injected.plan.readsContainer = true → scope.Provides session)
    (services : Services σ) (state : ServiceState σ) :
    (resolve (some scope) injected : Serving σ ε _).run services state =
      (.ok (((answer scope.context session injected).run services state.container).1, some scope),
        { state with
          container :=
            ((answer scope.context session injected).run services state.container).2 }) := by
  obtain ⟨plan, target, isOptional⟩ := injected
  cases plan with
  | messageProperty name typeName => rfl
  | transport part =>
    simp only [resolve, answer, InjectionScope.transport, Serving.run_pure]
    cases scope.context.properties.transport? <;> rfl
  | keyedService name =>
    simp only [resolve, answer, resolveService, Serving.run_bind, Serving.run_pure,
      (provides rfl).run_resolve]
  | defaultService =>
    simp only [resolve, answer, resolveService, Serving.run_bind, Serving.run_pure,
      (provides rfl).run_resolve]

/-- The binding that needs a session first opens it and goes on as if it had always been open. -/
theorem run_resolve_unopened {injected : Injected TargetType}
    (reads : injected.plan.readsContainer = true) (services : Services σ)
    (state : ServiceState σ) :
    (resolve (some ⟨context, .isolated none⟩) injected : Serving σ ε _).run services state =
      (resolve (some ⟨context, .isolated (some state.container.nextScope)⟩) injected).run services
        (state.isolate context.action) := by
  obtain ⟨plan, target, isOptional⟩ := injected
  cases plan with
  | messageProperty name typeName => cases reads
  | transport part => cases reads
  | keyedService name =>
    simp only [resolve, resolveService, Serving.run_bind, InjectionScope.run_resolve_unopened]
  | defaultService =>
    simp only [resolve, resolveService, Serving.run_bind, InjectionScope.run_resolve_unopened]

/-- Resolving in order is resolving the first binding and, if that succeeds, the others. -/
theorem run_resolveAll_cons (scope : Option InjectionScope) (injected : Injected TargetType)
    (rest : List (Injected TargetType)) (services : Services σ) (state : ServiceState σ) :
    (resolveAll scope (injected :: rest) : Serving σ ε _).run services state =
      match (resolve scope injected : Serving σ ε _).run services state with
      | (.error error, after) => (.error error, after)
      | (.ok (.error failure, scope), after) => (.ok (.error failure, scope), after)
      | (.ok (.ok argument, scope), after) =>
        (((resolveAll scope rest : Serving σ ε _).run services after).1.map fun answer =>
            (answer.1.map (argument :: ·), answer.2),
          ((resolveAll scope rest : Serving σ ε _).run services after).2) := by
  rw [resolveAll, Serving.run_bind]
  match (resolve scope injected : Serving σ ε _).run services state with
  | (.error _, _) => rfl
  | (.ok (.error _, _), _) => rfl
  | (.ok (.ok argument, scope), after) =>
    dsimp only
    rw [Serving.run_bind]
    match (resolveAll scope rest : Serving σ ε _).run services after with
    | (.error _, _) => rfl
    | (.ok (_, _), _) => rfl

/-- Bindings that are answered hand on to the bindings after them. -/
theorem Answered.run_resolveAll {scope : InjectionScope} {before after : Container σ}
    {bindings : List (Injected TargetType)} {arguments : List Argument}
    (answered : Answered services scope.context session before bindings arguments after)
    (provides : ∀ injected ∈ bindings, injected.plan.readsContainer = true →
      scope.Provides session)
    (rest : List (Injected TargetType)) {state : ServiceState σ}
    (here : state.container = before) :
    (resolveAll (some scope) (bindings ++ rest) : Serving σ ε _).run services state =
      let resolved : Except ε _ × ServiceState σ :=
        (resolveAll (some scope) rest).run services { state with container := after }
      (resolved.1.map fun answer => (answer.1.map (arguments ++ ·), answer.2), resolved.2) := by
  induction answered generalizing state with
  | nil container =>
    subst here
    dsimp only [List.nil_append]
    match (resolveAll (some scope) rest : Serving σ ε _).run services state with
    | (.error _, _) => rfl
    | (.ok (.error _, _), _) => rfl
    | (.ok (.ok _, _), _) => rfl
  | @cons before middle after injected argument others arguments first later ih =>
    subst here
    have needed := provides injected List.mem_cons_self
    have onwards := @ih (fun injected mem => provides injected (List.mem_cons_of_mem _ mem))
      { state with container := middle } rfl
    rw [List.cons_append, run_resolveAll_cons, run_resolve needed, first.run_answer]
    dsimp only
    rw [onwards]
    match (resolveAll (some scope) rest : Serving σ ε _).run services
        { state with container := after } with
    | (.error _, _) => rfl
    | (.ok (.error _, _), _) => rfl
    | (.ok (.ok _, _), _) => rfl

/-- A session that some binding is going to need may as well be opened at the start: the bindings
before that one are answered by the message. -/
theorem Answered.run_resolveAll_unopened {before after : Container σ}
    {bindings : List (Injected TargetType)} {arguments : List Argument}
    (answered : Answered services context session before bindings arguments after)
    {rest : List (Injected TargetType)}
    (needed : bindings.any (·.plan.readsContainer) = true ∨
      ∃ next later, rest = next :: later ∧ next.plan.readsContainer = true)
    (state : ServiceState σ) :
    (resolveAll (some ⟨context, .isolated none⟩) (bindings ++ rest) :
        Serving σ ε _).run services state =
      (resolveAll (some ⟨context, .isolated (some state.container.nextScope)⟩)
        (bindings ++ rest)).run services (state.isolate context.action) := by
  induction answered with
  | nil =>
    obtain none_left | ⟨next, later, rfl, reads⟩ := needed
    · cases none_left
    · rw [List.nil_append, run_resolveAll_cons, run_resolveAll_cons, run_resolve_unopened reads]
  | @cons before middle after injected argument others arguments first later ih =>
    rw [List.cons_append, run_resolveAll_cons, run_resolveAll_cons]
    cases reads : injected.plan.readsContainer with
    | true => rw [run_resolve_unopened reads]
    | false =>
      have message {scope : InjectionScope} (read : injected.plan.readsContainer = true) :
          scope.Provides session := by
        rw [reads] at read
        cases read
      have answered : ∀ container,
          (answer context session injected).run services container = (.ok argument, container) :=
        fun _ => (first.of_message reads).run_answer
      rw [run_resolve message, run_resolve message]
      dsimp only
      rw [answered, answered]
      have onwards := ih (by simpa only [List.any_cons, reads, Bool.false_or] using needed)
      dsimp only
      rw [onwards]

end Wrapper

end ServiceDispatch
