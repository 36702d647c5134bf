import ServiceDispatch.Proofs.Call.Dispatch
import ServiceDispatch.Proofs.Host.Commands
import ServiceDispatch.Proofs.Host.Endpoints

/-!
# Calls through channels

Every way in which a host may answer a call, told once, and what is true of every channel through
which calls are made. Which of the ways are open to a host that was put together properly is left to
later modules.
-/

namespace ServiceDispatch

variable {σ : Type} {services : Services σ} {host : Host σ}

/-- A channel leads to an endpoint that is as described, and keeps an instance of the contract, with
a scope of its own, exactly in the mode that asks for one. -/
structure Channel.LeadsTo (channel : Channel) (spec : HostSpec σ) (services : Services σ)
    (host : Host σ) (described : EndpointSpec σ) (endpoint : Endpoint σ) : Prop where
  /-- The endpoint is described. -/
  mem : described ∈ spec.endpoints
  /-- It is described for the address of the channel. -/
  address : described.address = channel.address
  /-- It is open there. -/
  found : host.endpoint? channel.address = some endpoint
  /-- It is as described. -/
  describes : described.Describes services spec.settings.host.defaultMode endpoint
  /-- An instance for each session is kept. -/
  manned : endpoint.mode = .perSession → ∃ scope object,
    channel.kept = some ⟨.perSession, .scope scope, .ofType described.contract.typeName object⟩
  /-- No other instance is. -/
  bare : endpoint.mode ≠ .perSession → channel.kept = none

/-- Whatever endpoint is open at the address of the channel is as described. -/
theorem Channel.LeadsTo.describes_of_found {channel : Channel} {spec : HostSpec σ}
    {described : EndpointSpec σ} {endpoint other : Endpoint σ}
    (leads : channel.LeadsTo spec services host described endpoint)
    (found : host.endpoint? channel.address = some other) :
    described.Describes services spec.settings.host.defaultMode other := by
  rw [← Option.some.inj (leads.found.symm.trans found)]
  exact leads.describes

/-- An open host opens channels to its endpoints. -/
theorem Host.leadsTo_of_openChannel {spec : HostSpec σ} {shared : AdapterRegistry σ}
    {start opened : ServiceState σ}
    (succeeded : (openWith spec shared).run services start = (.ok host, opened))
    {address : String} {channel : Channel} {before after : ServiceState σ}
    (opening : (host.openChannel address).run services before = (.ok channel, after)) :
    ∃ described endpoint, channel.LeadsTo spec services host described endpoint := by
  have connects := host.connects services address before
  rw [opening] at connects
  cases connects with
  | plain session sessions found mode =>
    obtain ⟨described, mem, here, describes⟩ := described_of_openWith succeeded found
    exact ⟨described, _, mem, here, found, describes, fun manned => absurd manned mode,
      fun _ => rfl⟩
  | manned session sessions found mode activation =>
    obtain ⟨described, mem, here, describes⟩ := described_of_openWith succeeded found
    rw [describes.activator] at activation
    obtain ⟨object, rfl⟩ := InstanceContext.activate_ok activation
    exact ⟨described, _, mem, here, found, describes, fun _ => ⟨_, object, rfl⟩,
      fun other => absurd mode other⟩

/-- A switchboard uses an opened host, and its channels lead to the endpoints of that host. -/
structure Switchboard.Uses (board : Switchboard σ) (spec : HostSpec σ) (services : Services σ)
    (host : Host σ) : Prop where
  /-- The host is that one. -/
  sameHost : board.host = host
  /-- The registrations are those that it was opened with. -/
  sameServices : board.services = services
  /-- Channels lead to its endpoints. -/
  leads : ∀ {name channel}, board.channels.get? name = some channel →
    ∃ described endpoint, channel.LeadsTo spec services host described endpoint

section

variable {spec : HostSpec σ} {shared : AdapterRegistry σ} {start opened : ServiceState σ}
  (opening : (Host.openWith spec shared).run services start = (.ok host, opened))

include opening

/-- Every command leaves the host in use. -/
theorem Switchboard.Uses.execute {board : Switchboard σ} (uses : board.Uses spec services host)
    {command : Switchboard.Command} {result : Except Failure Switchboard.Answer × Switchboard σ}
    (executes : board.Executes command result) : result.2.Uses spec services host where
  sameHost := executes.same.1.trans uses.sameHost
  sameServices := executes.same.2.trans uses.sameServices
  leads found := by
    obtain here | ⟨_, _, connecting⟩ := executes.channel found
    · exact uses.leads here
    · rw [uses.sameHost, uses.sameServices] at connecting
      exact Host.leadsTo_of_openChannel opening connecting

/-- What every command keeps while the host is in use is true throughout a run, and so the host is
in use throughout. -/
theorem Switchboard.Uses.induction {P : Switchboard σ → Prop}
    (first : P (Switchboard.start host services opened))
    (step : ∀ {board command result}, board.Uses spec services host → P board →
      board.Executes command result → P result.2)
    (commands : List Switchboard.Command) :
    ((Switchboard.start host services opened).after commands).Uses spec services host ∧
      P ((Switchboard.start host services opened).after commands) := by
  have nothing : (Switchboard.start host services opened).Uses spec services host :=
    ⟨rfl, rfl, fun absurd => nomatch absurd⟩
  generalize Switchboard.start host services opened = board at first nothing
  induction commands generalizing board with
  | nil => exact ⟨nothing, first⟩
  | cons command rest ih =>
    exact ih _ (step nothing first (board.executes command))
      (nothing.execute opening (board.executes command))

theorem Switchboard.uses_after (commands : List Switchboard.Command) :
    ((Switchboard.start host services opened).after commands).Uses spec services host :=
  (Uses.induction (P := fun _ => True) opening trivial (fun _ _ _ => trivial) commands).1

end

/-- The context in which an instance context serves a message from a channel. -/
def Channel.contextOf (channel : Channel) (message : Message) (hosting : InstanceContext)
    (owned : Bool) : OperationContext where
  hosting := hosting
  ownsHosting := owned
  properties := message.properties
  action := message.action
  session := channel.session

/-- The instance context that serves a call, whether it belongs to the call alone, and the state
once it is there. -/
inductive Endpoint.Staffs (endpoint : Endpoint σ) (services : Services σ) (channel : Channel)
    (before : ServiceState σ) : InstanceContext → Bool → ServiceState σ → Prop where
  /-- One that is activated for the call. -/
  | activated {hosting : InstanceContext} {after : ServiceState σ}
      (mode : endpoint.mode = .perCall)
      (activation : (InstanceContext.activate .perCall endpoint.activator).run services before =
        (.ok hosting, after)) :
      Staffs endpoint services channel before hosting true after
  /-- The one that the channel keeps. -/
  | kept {hosting : InstanceContext} (mode : endpoint.mode = .perSession)
      (kept : channel.kept = some hosting) :
      Staffs endpoint services channel before hosting false before
  /-- The one that serves all calls. -/
  | single {hosting : InstanceContext} (mode : endpoint.mode = .single)
      (single : endpoint.single = some hosting) :
      Staffs endpoint services channel before hosting false before

/-- How a call may end. -/
inductive Host.Calls (host : Host σ) (services : Services σ) (channel : Channel)
    (message : Message) (before : ServiceState σ) :
    Except Failure Outcome × ServiceState σ → Prop where
  /-- There is no endpoint at the address of the channel. -/
  | lost (missing : host.endpoint? channel.address = none) :
      Calls host services channel message before
        (.error (.unknownEndpoint channel.address), before)
  /-- The action names no operation. -/
  | unknown {endpoint : Endpoint σ} (found : host.endpoint? channel.address = some endpoint)
      (absent : (endpoint.operations.find? fun signature => signature.method = message.action) =
        none) :
      Calls host services channel message before
        (.error (.unknownOperation endpoint.contract message.action), before)
  /-- No instance can be activated for the call. -/
  | inactive {endpoint : Endpoint σ} {signature : Signature} {failure : Failure}
      {after : ServiceState σ} (found : host.endpoint? channel.address = some endpoint)
      (chosen : (endpoint.operations.find? fun signature => signature.method = message.action) =
        some signature)
      (mode : endpoint.mode = .perCall)
      (activation : (InstanceContext.activate .perCall endpoint.activator).run services before =
        (.error failure, after)) :
      Calls host services channel message before (.error failure, after)
  /-- The channel should keep an instance and does not. -/
  | unkept {endpoint : Endpoint σ} (found : host.endpoint? channel.address = some endpoint)
      (mode : endpoint.mode = .perSession) (bare : channel.kept = none) :
      Calls host services channel message before
        (.error (.internal "session instance context was not opened"), before)
  /-- An instance should serve all calls and does not. -/
  | unopened {endpoint : Endpoint σ} (found : host.endpoint? channel.address = some endpoint)
      (mode : endpoint.mode = .single) (bare : endpoint.single = none) :
      Calls host services channel message before
        (.error (.internal "single instance context was not opened"), before)
  /-- The operation has no adapter. -/
  | missed {endpoint : Endpoint σ} {signature : Signature} {hosting : InstanceContext}
      {owned : Bool} {middle : ServiceState σ}
      (found : host.endpoint? channel.address = some endpoint)
      (chosen : (endpoint.operations.find? fun signature => signature.method = message.action) =
        some signature)
      (staffed : endpoint.Staffs services channel before hosting owned middle)
      (missing : host.registry.lookup signature.key.text =
        .error (.registryMiss signature.key.text)) :
      Calls host services channel message before
        (.error (.registryMiss signature.key.text),
          { middle with
            container := (middle.container.report (.adapterMissing signature.key.text)).releaseCall
              (channel.contextOf message hosting owned) })
  /-- The number of arguments is not that of the slots. -/
  | miscounted {endpoint : Endpoint σ} {signature : Signature} {adapter : Adapter σ}
      {hosting : InstanceContext} {owned : Bool} {middle : ServiceState σ}
      (found : host.endpoint? channel.address = some endpoint)
      (chosen : (endpoint.operations.find? fun signature => signature.method = message.action) =
        some signature)
      (staffed : endpoint.Staffs services channel before hosting owned middle)
      (looked : host.registry.lookup signature.key.text = .ok adapter)
      (differs : message.arguments.length ≠ adapter.plan.slots) :
      Calls host services channel message before
        (.error (.argumentCount signature.key.text adapter.plan.slots message.arguments.length),
          { middle with
            container :=
              middle.container.releaseCall (channel.contextOf message hosting owned) })
  /-- The adapter of the operation is invoked. -/
  | invoked {endpoint : Endpoint σ} {signature : Signature} {adapter : Adapter σ}
      {hosting : InstanceContext} {owned : Bool} {middle : ServiceState σ}
      {ended : Except Failure Outcome × ServiceState σ}
      (found : host.endpoint? channel.address = some endpoint)
      (chosen : (endpoint.operations.find? fun signature => signature.method = message.action) =
        some signature)
      (staffed : endpoint.Staffs services channel before hosting owned middle)
      (looked : host.registry.lookup signature.key.text = .ok adapter)
      (count : message.arguments.length = adapter.plan.slots)
      (invocation : (adapter.invoke hosting.served (.holding message.arguments)).run services
        (middle.callStarted (channel.contextOf message hosting owned)) = ended) :
      Calls host services channel message before
        (ended.1, middle.callEnded (channel.contextOf message hosting owned) ended)

/-- A call is dispatched once its operation and its instance are there. -/
theorem Host.run_call {channel : Channel} {message : Message} {before middle : ServiceState σ}
    {endpoint : Endpoint σ} {signature : Signature} {hosting : InstanceContext} {owned : Bool}
    (found : host.endpoint? channel.address = some endpoint)
    (chosen : (endpoint.operations.find? fun signature => signature.method = message.action) =
      some signature)
    (staffed : endpoint.Staffs services channel before hosting owned middle) :
    (host.call channel message).run services before =
      (host.registry.dispatchSignature signature hosting.served message.arguments
        (channel.contextOf message hosting owned)).run services middle := by
  have reached : host.endpointAt channel.address = .ok endpoint := by rw [endpointAt, found]
  have named : endpoint.operation message.action = .ok signature := by
    rw [Endpoint.operation, chosen]
  have served : (instanceFor endpoint channel).run services before =
      (.ok (hosting, owned), middle) := by
    cases staffed with
    | activated mode activation =>
      simp only [instanceFor, mode, Serving.run_bind, activation, Serving.run_pure]
    | kept mode kept => simp only [instanceFor, mode, kept, Serving.run_pure]
    | single mode single => simp only [instanceFor, mode, single, Serving.run_pure]
  simp only [call, reached, named, Serving.run_bind, Serving.run_ofExcept, served]
  rfl

/-- An instance context is found for a call, or there is a reason why not. -/
theorem Host.calls (host : Host σ) (services : Services σ) (channel : Channel)
    (message : Message) (before : ServiceState σ) :
    host.Calls services channel message before
      ((host.call channel message).run services before) := by
  cases found : host.endpoint? channel.address with
  | none =>
    rw [call, Serving.run_bind, Serving.run_ofExcept, endpointAt, found]
    exact .lost found
  | some endpoint =>
    cases chosen : endpoint.operations.find? fun signature =>
        signature.method = message.action with
    | none =>
      rw [call, Serving.run_bind, Serving.run_ofExcept, endpointAt, found]
      dsimp only
      rw [Serving.run_bind, Serving.run_ofExcept, Endpoint.operation, chosen]
      exact .unknown found chosen
    | some signature =>
      have dispatched : ∀ {hosting owned middle},
          endpoint.Staffs services channel before hosting owned middle →
          host.Calls services channel message before
            ((host.call channel message).run services before) := by
        intro hosting owned middle staffed
        rw [run_call found chosen staffed, AdapterRegistry.dispatchSignature]
        obtain ⟨adapter, looked, -⟩ | ⟨missing, -⟩ :=
          Registry.lookup_cases host.registry signature.key.text
        · rw [AdapterRegistry.run_dispatch looked]
          by_cases count : message.arguments.length = adapter.plan.slots
          · rw [if_pos count, AdapterRegistry.run_invoke]
            exact .invoked found chosen staffed looked count rfl
          · rw [if_neg count]
            exact .miscounted found chosen staffed looked count
        · rw [AdapterRegistry.run_dispatch_missing missing]
          exact .missed found chosen staffed missing
      have refused : ∀ {failure after},
          (instanceFor endpoint channel).run services before = (.error failure, after) →
          (host.call channel message).run services before = (.error failure, after) := by
        intro failure after fails
        simp only [call, endpointAt, found, Endpoint.operation, chosen, Serving.run_bind,
          Serving.run_ofExcept, fails]
      cases mode : endpoint.mode with
      | perCall =>
        cases activation : (InstanceContext.activate .perCall endpoint.activator).run services
            before with
        | mk result after =>
          cases result with
          | error failure =>
            rw [@refused failure after
              (by simp only [instanceFor, mode, Serving.run_bind, activation])]
            exact .inactive found chosen mode activation
          | ok hosting => exact dispatched (.activated mode activation)
      | perSession =>
        cases kept : channel.kept with
        | none =>
          rw [refused (by simp only [instanceFor, mode, kept, Serving.run_throw]; rfl)]
          exact .unkept found mode kept
        | some hosting => exact dispatched (.kept mode kept)
      | single =>
        cases single : endpoint.single with
        | none =>
          rw [refused (by simp only [instanceFor, mode, single, Serving.run_throw]; rfl)]
          exact .unopened found mode single
        | some hosting => exact dispatched (.single mode single)

end ServiceDispatch
