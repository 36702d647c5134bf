import ServiceDispatch.Proofs.Call.Scopes

/-!
# The session of an injection scope

A scope is asked for transport state, properties and services in any order and any number, and is
then closed. All services come from one session. On an instance that serves all calls it is the
scope's own: it is opened by the first request for a service, whatever becomes of the request, and
released when the scope is closed. What the session answers is not the subject here.
-/

namespace ServiceDispatch

open Container (KeepsScopes Opens)

namespace InjectionScope

variable {σ ε : Type}

/-- Whether a command asks for a service. -/
def Command.asks : Command → Bool
  | .transport _ | .property _ _ => false
  | .find _ | .require _ => true

/-- Carries commands out one after another. -/
def executeAll (scope : InjectionScope) :
    List Command → Serving σ ε (List (Except Failure Answer) × InjectionScope)
  | [] => pure ([], scope)
  | command :: rest => do
    let (answer, scope) ← scope.execute command
    let (answers, scope) ← scope.executeAll rest
    return (answer :: answers, scope)

/-- The answer to a command of a call with given properties that asks a session for services. -/
def Command.answer (properties : Properties) (session : Session) : Command → Resolution σ Answer
  | .transport part =>
    match properties.transport? with
    | some context => pure (.transport context)
    | none => throw (.missingTransportContext part.display)
  | .property name type => pure (.property (properties.get? name type))
  | .find key => return .service (← Resolution.find session key)
  | .require key => return .service (some (← Resolution.require session key))

/-- The answers to commands one after another, each given in the container that the former ones
left. -/
def answerAll (properties : Properties) (session : Session) (services : Services σ) :
    List Command → Container σ → List (Except Failure Answer) × Container σ
  | [], container => ([], container)
  | command :: rest, container =>
    let (answer, middle) := (command.answer properties session).run services container
    let (answers, after) := answerAll properties session services rest middle
    (answer :: answers, after)

/-- Whether a session of the scope's own is opened for commands. -/
def opensFor (context : OperationContext) (commands : List Command) : Bool :=
  context.hosting.isSingleton && commands.any Command.asks

/-- The session that a scope for a call asks for services. -/
def sessionFor (context : OperationContext) (state : ServiceState σ) : Session :=
  if context.hosting.isSingleton then .scope state.container.nextScope
  else context.hosting.session

/-- The state in which commands are answered. -/
def stateFor (context : OperationContext) (commands : List Command) (state : ServiceState σ) :
    ServiceState σ :=
  if opensFor context commands then state.isolate context.action else state

/-- What the commands of a call are answered, and what their answers leave in the container. -/
def answersFor (context : OperationContext) (commands : List Command) (services : Services σ)
    (state : ServiceState σ) : List (Except Failure Answer) × Container σ :=
  answerAll context.properties (sessionFor context state) services commands
    (stateFor context commands state).container

/-- A scope for a call after commands. -/
def scopeFor (context : OperationContext) (commands : List Command) (state : ServiceState σ) :
    InjectionScope :=
  ⟨context,
    if context.hosting.isSingleton then
      .isolated (if commands.any Command.asks then some state.container.nextScope else none)
    else .ambient context.hosting.session⟩

/-- A command that asks for no service is answered by the message alone, through any scope for its
call, and changes neither the scope nor anything else. -/
def IsRead (context : OperationContext) (command : Command) : Prop :=
  ∃ answer : Except Failure Answer,
    (∀ (σ : Type) (session : Session) (services : Services σ) (container : Container σ),
      (command.answer context.properties session).run services container =
        (answer, container)) ∧
    ∀ (σ ε : Type) (use : SessionUse) (services : Services σ) (state : ServiceState σ),
      (execute ⟨context, use⟩ command : Serving σ ε _).run services state =
        (.ok (answer, ⟨context, use⟩), state)

section Commands

variable {context : OperationContext} {scope : InjectionScope} {session : Session}
  {command : Command} (services : Services σ) (state : ServiceState σ)

/-- A command that asks for no service is answered whatever the container holds, and leaves it as
it is. -/
theorem run_answer_of_read (properties : Properties) (reads : command.asks = false) :
    ∃ result : Except Failure Answer, ∀ (σ : Type) (session : Session) (services : Services σ)
      (container : Container σ),
      (command.answer properties session).run services container = (result, container) := by
  cases command with
  | transport part =>
    cases found : properties.transport? with
    | none => exact ⟨_, fun _ _ _ _ => by simp only [Command.answer, found]; rfl⟩
    | some context => exact ⟨_, fun _ _ _ _ => by simp only [Command.answer, found]; rfl⟩
  | property name type => exact ⟨_, fun _ _ _ _ => rfl⟩
  | find key => contradiction
  | require key => contradiction

theorem reaches_answer (properties : Properties) (session : Session) (command : Command)
    (container : Container σ) :
    Container.Reaches services session container
      ((command.answer properties session).run services container).2 := by
  cases asks : command.asks with
  | false =>
    obtain ⟨result, same⟩ := run_answer_of_read properties asks
    rw [same]
    exact Container.Reaches.refl container
  | true =>
    cases command with
    | transport part => contradiction
    | property name type => contradiction
    | find key =>
      have found := Resolution.findsBySteps_find services session key container
      simpa only [Command.answer, Resolution.run_bind_pure] using found
    | require key =>
      have found : Container.Reaches services session container
          ((Resolution.require session key).run services container).2 :=
        Resolution.reaches_require session _ container
      simpa only [Command.answer, Resolution.run_bind_pure] using found

/-- A scope carries a command out by answering it, unless it would have to open a session. -/
theorem run_execute (provides : command.asks = true → scope.Provides session) :
    (scope.execute command : Serving σ ε _).run services state =
      (.ok (((command.answer scope.context.properties session).run services state.container).1,
          scope),
        { state with
          container :=
            ((command.answer scope.context.properties session).run services
              state.container).2 }) := by
  cases command with
  | transport part =>
    simp only [execute, Command.answer, transport, Serving.run_pure]
    cases scope.context.properties.transport? <;> rfl
  | property name type => rfl
  | find key =>
    simp only [execute, Serving.run_bind, Serving.run_pure, (provides rfl).run_resolve,
      Command.answer, Resolution.run_bind_pure]
  | require key =>
    simp only [execute, Serving.run_bind, Serving.run_pure, (provides rfl).run_resolve,
      Command.answer, Resolution.run_bind_pure]

/-- A request for a service opens the session and goes on as if it had always been open. -/
theorem run_execute_unopened (asks : command.asks = true) :
    (execute ⟨context, .isolated none⟩ command : Serving σ ε _).run services state =
      (execute ⟨context, .isolated (some state.container.nextScope)⟩ command).run services
        (state.isolate context.action) := by
  cases command with
  | transport part => contradiction
  | property name type => contradiction
  | find key => simp only [execute, Serving.run_bind, run_resolve_unopened]
  | require key => simp only [execute, Serving.run_bind, run_resolve_unopened]

theorem isRead_of_asks_eq_false (context : OperationContext) (reads : command.asks = false) :
    IsRead context command := by
  obtain ⟨answer, same⟩ := run_answer_of_read context.properties reads
  refine ⟨answer, same, fun σ ε use services state => ?_⟩
  have unneeded : command.asks = true → Provides ⟨context, use⟩ .root := by
    intro needed
    rw [reads] at needed
    contradiction
  rw [run_execute services state unneeded, same]

end Commands

section Sequences

variable {context : OperationContext} {scope : InjectionScope} {session : Session}
  (services : Services σ)

/-- Answering commands opens and releases nothing. -/
theorem keepsScopes_answerAll (properties : Properties) (session : Session)
    (commands : List Command) (container : Container σ) :
    KeepsScopes container (answerAll properties session services commands container).2 := by
  induction commands generalizing container with
  | nil => exact KeepsScopes.refl container
  | cons command rest ih =>
    have first := (reaches_answer services properties session command container).keepsScopes
    exact first.trans (ih _)

theorem run_executeAll_cons (scope : InjectionScope) (command : Command) (rest : List Command)
    (state : ServiceState σ) {answer : Except Failure Answer} {next : InjectionScope}
    {middle : ServiceState σ}
    (first : (scope.execute command : Serving σ ε _).run services state =
      (.ok (answer, next), middle)) :
    (scope.executeAll (command :: rest) : Serving σ ε _).run services state =
      (((next.executeAll rest : Serving σ ε _).run services middle).1.map
          fun found => (answer :: found.1, found.2),
        ((next.executeAll rest : Serving σ ε _).run services middle).2) := by
  rw [executeAll, Serving.run_bind, first]
  dsimp only
  rw [Serving.run_bind]
  cases (next.executeAll rest : Serving σ ε _).run services middle with
  | mk result after => cases result <;> rfl

/-- Commands after others are carried out by the scope that those left. -/
theorem executeAll_append (scope : InjectionScope) (earlier later : List Command) :
    (scope.executeAll (earlier ++ later) : Serving σ ε _) = do
      let (answers, next) ← scope.executeAll earlier
      let (others, last) ← next.executeAll later
      return (answers ++ others, last) := by
  induction earlier generalizing scope with
  | nil => simp [executeAll]
  | cons command rest ih => simp [executeAll, ih]

/-- A scope that need not open a session answers all commands from the one it has. -/
theorem run_executeAll (commands : List Command)
    (provides : ∀ command ∈ commands, command.asks = true → scope.Provides session)
    (state : ServiceState σ) :
    (scope.executeAll commands : Serving σ ε _).run services state =
      (.ok ((answerAll scope.context.properties session services commands state.container).1,
          scope),
        { state with
          container :=
            (answerAll scope.context.properties session services commands
              state.container).2 }) := by
  induction commands generalizing state with
  | nil => rfl
  | cons command rest ih =>
    have first := run_execute (ε := ε) services state (provides command List.mem_cons_self)
    rw [run_executeAll_cons services scope command rest state first,
      ih fun command mem => provides command (List.mem_cons_of_mem _ mem)]
    rfl

/-- A session that some command is going to need may as well be opened at the start: the commands
before that one do not depend on the container. -/
theorem run_executeAll_unopened {commands : List Command}
    (asked : commands.any Command.asks = true) (state : ServiceState σ) :
    (executeAll ⟨context, .isolated none⟩ commands : Serving σ ε _).run services state =
      (executeAll ⟨context, .isolated (some state.container.nextScope)⟩ commands).run services
        (state.isolate context.action) := by
  induction commands with
  | nil => contradiction
  | cons command rest ih =>
    cases asks : command.asks with
    | true =>
      rw [executeAll, executeAll, Serving.run_bind, Serving.run_bind,
        run_execute_unopened services state asks]
    | false =>
      have later : rest.any Command.asks = true := by simpa [asks] using asked
      obtain ⟨result, -, same⟩ := isRead_of_asks_eq_false context asks
      rw [run_executeAll_cons services _ command rest state (same σ ε _ services state),
        run_executeAll_cons services _ command rest _ (same σ ε _ services _), ih later]

/-- What commands do through a scope for their call: they are answered from one session. -/
theorem run_executeAll_enter (context : OperationContext) (commands : List Command)
    (state : ServiceState σ) :
    ((enter context).executeAll commands : Serving σ ε _).run services state =
      (.ok ((answersFor context commands services state).1, scopeFor context commands state),
        { stateFor context commands state with
          container := (answersFor context commands services state).2 }) := by
  unfold enter answersFor scopeFor sessionFor stateFor opensFor
  cases context.hosting.isSingleton with
  | false =>
    have provides : Provides ⟨context, .ambient context.hosting.session⟩
        context.hosting.session := .inl rfl
    exact run_executeAll services commands (fun _ _ _ => provides) state
  | true =>
    cases asked : commands.any Command.asks with
    | false =>
      have unneeded : ∀ command ∈ commands, command.asks = true →
          Provides ⟨context, .isolated none⟩ (.scope state.container.nextScope) := by
        intro command mem asks
        have reads := List.any_eq_false.mp asked command mem
        contradiction
      exact run_executeAll services commands unneeded state
    | true =>
      have provides : Provides ⟨context, .isolated (some state.container.nextScope)⟩
          (.scope state.container.nextScope) := .inr ⟨_, rfl, rfl⟩
      have opened : (executeAll ⟨context, .isolated none⟩ commands : Serving σ ε _).run services
          state = _ := run_executeAll_unopened services asked state
      exact opened.trans (run_executeAll services commands (fun _ _ _ => provides) _)

end Sequences

/-- What has become of commands through a scope for a call, before the scope is closed. -/
structure Uses (services : Services σ) (context : OperationContext) (commands : List Command)
    (state : ServiceState σ) (answers : List (Except Failure Answer)) (scope : InjectionScope)
    (after : ServiceState σ) : Prop where
  /-- They are answered by the message and from one session, and nothing else is done. -/
  answers : answers = (answersFor context commands services state).1
  /-- A session that had to be opened was opened, and the rest is what the answers leave. -/
  leaves : after =
    { stateFor context commands state with
      container := (answersFor context commands services state).2 }
  /-- A session of the scope's own is there as soon as a service has been asked for. -/
  hasSession : scope.hasSession = true ↔
    context.hosting.isSingleton = false ∨ ∃ command ∈ commands, command.asks = true
  /-- One scope of the container has been opened if one was needed, and is still open. -/
  openness : after.container.openness =
    state.container.openness ++ if opensFor context commands then [true] else []
  /-- Nothing has been released. -/
  releases : ∀ id, after.container.releases id = state.container.releases id

/-- What closing a scope for a call does after commands. -/
structure Ends (context : OperationContext) (commands : List Command)
    (state after final : ServiceState σ) : Prop where
  /-- Without a session of the scope's own, nothing. -/
  nothing : opensFor context commands = false → final = after
  /-- The scope of the container that was opened is closed, and no other one. -/
  openness : final.container.openness =
    state.container.openness ++ if opensFor context commands then [false] else []
  /-- It is released once, and no other one is released. -/
  releases : ∀ id, final.container.releases id = state.container.releases id +
    if opensFor context commands = true ∧ id = state.container.nextScope then 1 else 0

section Life

variable (services : Services σ) (context : OperationContext) (commands : List Command)
  (state : ServiceState σ)

/-- Commands open the one scope that they need. -/
theorem openness_answersFor : (answersFor context commands services state).2.openness =
    state.container.openness ++ if opensFor context commands then [true] else [] := by
  have answering := keepsScopes_answerAll services context.properties (sessionFor context state)
    commands (stateFor context commands state).container
  refine answering.openness.trans ?_
  unfold stateFor
  cases opensFor context commands with
  | false => simp
  | true =>
    have opens := Opens.openScope (state.container.report (.sessionIsolated context.action))
    exact opens.openness

/-- Commands release nothing. -/
theorem releases_answersFor (id : ScopeId) :
    (answersFor context commands services state).2.releases id = state.container.releases id := by
  have answering := keepsScopes_answerAll services context.properties (sessionFor context state)
    commands (stateFor context commands state).container
  refine (answering.releases id).trans ?_
  unfold stateFor
  cases opensFor context commands with
  | false => rfl
  | true =>
    simp [ServiceState.isolate, Container.openScope, Container.report, Container.releases,
      List.countP_append, Event.releases]

theorem uses_scopeFor : Uses services context commands state
    (answersFor context commands services state).1 (scopeFor context commands state)
    { stateFor context commands state with
      container := (answersFor context commands services state).2 } where
  answers := rfl
  leaves := rfl
  hasSession := by
    unfold scopeFor hasSession
    cases context.hosting.isSingleton with
    | false => simp
    | true =>
      cases asked : commands.any Command.asks with
      | false => simpa using asked
      | true => simpa using asked
  openness := openness_answersFor services context commands state
  releases := releases_answersFor services context commands state

/-- Closing a scope of its own releases it, and closing any other one does nothing. -/
theorem ends_scopeFor {answers : List (Except Failure Answer)} {after : ServiceState σ}
    (uses : Uses services context commands state answers (scopeFor context commands state)
      after) :
    ∃ final, ((scopeFor context commands state).close : Serving σ ε Unit).run services after =
        (.ok (), final) ∧
      Ends context commands state after final := by
  cases opens : opensFor context commands with
  | false =>
    have closed : ((scopeFor context commands state).close : Serving σ ε Unit).run services
        after = (.ok (), after) := by
      unfold opensFor at opens
      unfold scopeFor close
      cases singleton : context.hosting.isSingleton with
      | false => simp
      | true =>
        have unasked : commands.any Command.asks = false := by simpa [singleton] using opens
        simp [unasked]
    refine ⟨after, closed, fun _ => rfl, ?_, fun id => ?_⟩
    · simpa [opens] using uses.openness
    · simpa [opens] using uses.releases id
  | true =>
    have closed : ((scopeFor context commands state).close : Serving σ ε Unit).run services
        after =
          (.ok (), { after with
            container := (after.container.report (.sessionReleased context.action)).releaseScope
              state.container.nextScope }) := by
      have both : context.hosting.isSingleton = true ∧ commands.any Command.asks = true := by
        simpa [opensFor] using opens
      unfold scopeFor close
      simp [both.1, both.2, Serving.run_bind]
    refine ⟨_, closed, fun never => ?_, ?_, fun id => ?_⟩
    · rw [opens] at never
      contradiction
    · have before := uses.openness
      rw [opens, if_pos rfl] at before
      have noted : (after.container.report (.sessionReleased context.action)).openness =
          after.container.openness := rfl
      dsimp only
      rw [Container.openness_releaseScope, Container.nextScope_index, noted, before, opens,
        if_pos rfl, List.set_append_right _ _ (Nat.le_refl _), Nat.sub_self, List.set_cons_zero]
    · have before := uses.releases id
      rw [← before, opens]
      simp [Container.releaseScope, Container.releases, Container.report, List.countP_append,
        Event.releases, List.countP_singleton, eq_comm]

end Life

/-- An injection scope uses one session, opens it when it is first needed and releases it at its
end. `earlier` and `later` are any commands, so that this says what has happened at every point
between two commands. -/
theorem enter_usesOneSession (services : Services σ) (context : OperationContext)
    (earlier later : List Command) (state : ServiceState σ) :
    (∀ command, command.asks = false → IsRead context command) ∧
    ∃ answers scope middle others last after final,
      ((enter context).executeAll earlier : Serving σ ε _).run services state =
        (.ok (answers, scope), middle) ∧
      Uses services context earlier state answers scope middle ∧
      (scope.executeAll later : Serving σ ε _).run services middle =
        (.ok (others, last), after) ∧
      Uses services context (earlier ++ later) state (answers ++ others) last after ∧
      (last.close : Serving σ ε Unit).run services after = (.ok (), final) ∧
      Ends context (earlier ++ later) state after final := by
  refine ⟨fun command reads => isRead_of_asks_eq_false context reads, ?_⟩
  have first := run_executeAll_enter (ε := ε) services context earlier state
  have whole := run_executeAll_enter (ε := ε) services context (earlier ++ later) state
  have uses := uses_scopeFor services context (earlier ++ later) state
  rw [executeAll_append, Serving.run_bind, first] at whole
  dsimp only at whole
  rw [Serving.run_bind] at whole
  cases onwards : ((scopeFor context earlier state).executeAll later : Serving σ ε _).run services
      { stateFor context earlier state with
        container := (answersFor context earlier services state).2 } with
  | mk result after =>
    rw [onwards] at whole
    cases result with
    | error error =>
      have impossible := congrArg Prod.fst whole
      contradiction
    | ok found =>
      obtain ⟨others, last⟩ := found
      obtain ⟨⟨answered, rfl⟩, rfl⟩ : (_ ∧ last = _) ∧ after = _ := by
        simpa using whole
      rw [← answered] at uses
      obtain ⟨final, closes, ends⟩ := ends_scopeFor (ε := ε) services context (earlier ++ later)
        state uses
      exact ⟨_, _, _, others, _, _, final, first, uses_scopeFor services context earlier state,
        onwards, uses, closes, ends⟩

end InjectionScope

end ServiceDispatch
