import ServiceDispatch.Proofs.Call.Injections
import ServiceDispatch.Proofs.Host.Scopes

/-!
# Scoped services in calls

Which scope the services come from that a call injects: that of the channel, if it has one, and
otherwise the first one that the call opens. What everything that callers do to a host does to its
container are moves, so an instance can be followed from the call that injects it.
-/

namespace ServiceDispatch

variable {σ : Type} {services : Services σ} {host : Host σ} {spec : HostSpec σ}
  {wrapper? : String → Option (Wrapper σ)}

open Container (Moves)

namespace Container

variable {before after : Container σ}

theorem Moves.releaseHosting (moves : Moves services before after) (hosting : InstanceContext) :
    Moves services before (after.releaseHosting hosting) := by
  rw [Container.releaseHosting]
  cases hosting.session with
  | root => exact moves.report _
  | scope id => exact (moves.report _).releaseScope id

theorem Moves.releaseCall (moves : Moves services before after) (context : OperationContext) :
    Moves services before (after.releaseCall context) := by
  rw [Container.releaseCall]
  split
  · exact moves.releaseHosting _
  · exact moves

theorem Moves.endCall (moves : Moves services before after) (context : OperationContext)
    (result : Except Failure Outcome) :
    Moves services before (after.endCall context result) := by
  cases result with
  | ok outcome => exact moves.releaseCall context
  | error failure => exact (moves.releaseCall context).report _

theorem Moves.closeChannel (moves : Moves services before after) (channel : Channel) :
    Moves services before (after.closeChannel channel) := by
  rw [Container.closeChannel]
  cases channel.kept with
  | none => exact moves.report _
  | some hosting => exact (moves.report _).releaseHosting hosting

end Container

/-- However opening an instance context ends, it goes by moves. -/
theorem InstanceContext.moves_activate {mode : InstanceMode} {service : ServiceKey}
    {contract : String} {result : Except Failure InstanceContext} {before after : ServiceState σ}
    (activated : (activate mode (.ofService service contract)).run services before =
      (result, after)) :
    Moves services before.container after.container := by
  have begins : Moves services before.container (begin mode before.container).2 := by
    cases mode with
    | single => exact Moves.refl _
    | perCall | perSession => exact (Container.Move.openScope before.container).moves
  rw [run_activate] at activated
  generalize begin mode before.container = started at activated begins
  obtain ⟨session, container⟩ := started
  have steps : Container.Reaches services session container
      ((Resolution.require session service).run services container).2 :=
    Resolution.reaches_require session service container
  dsimp only at activated begins
  cases answered : (Resolution.require session service).run services container with
  | mk found last =>
    rw [answered] at activated steps
    have moves := begins.trans steps.moves
    cases found with
    | ok object =>
      obtain ⟨-, rfl⟩ := Prod.mk.inj activated
      exact moves.report _
    | error failure =>
      obtain ⟨-, rfl⟩ := Prod.mk.inj activated
      cases session with
      | root => exact moves
      | scope id => exact moves.releaseScope id

namespace Endpoint.Staffs

variable {channel : Channel} {described : EndpointSpec σ} {endpoint : Endpoint σ}
  {before middle : ServiceState σ} {hosting : InstanceContext} {owned : Bool}

theorem moves (staffed : endpoint.Staffs services channel before hosting owned middle)
    (describes : described.Describes services spec.settings.host.defaultMode endpoint) :
    Moves services before.container middle.container := by
  cases staffed with
  | kept | single => exact Moves.refl _
  | activated mode activation =>
    rw [describes.activator] at activation
    exact InstanceContext.moves_activate activation

/-- A call has one instance context. -/
theorem unique (staffed : endpoint.Staffs services channel before hosting owned middle)
    {hosting' : InstanceContext} {owned' : Bool} {middle' : ServiceState σ}
    (staffed' : endpoint.Staffs services channel before hosting' owned' middle') :
    hosting = hosting' ∧ owned = owned' ∧ middle = middle' := by
  cases staffed with
  | activated mode activation =>
    cases staffed' with
    | activated mode' activation' =>
      obtain ⟨same, rfl⟩ := Prod.mk.inj (activation.symm.trans activation')
      exact ⟨Except.ok.inj same, rfl, rfl⟩
    | kept mode' | single mode' => simp [mode] at mode'
  | kept mode here =>
    cases staffed' with
    | kept mode' here' => exact ⟨Option.some.inj (here.symm.trans here'), rfl, rfl⟩
    | activated mode' | single mode' => simp [mode] at mode'
  | single mode here =>
    cases staffed' with
    | single mode' here' => exact ⟨Option.some.inj (here.symm.trans here'), rfl, rfl⟩
    | activated mode' | kept mode' => simp [mode] at mode'

/-- The services that a call injects come from the scope of its channel, or else from the first
scope that the call opens. -/
theorem sessionOf_eq (staffed : endpoint.Staffs services channel before hosting owned middle)
    (leads : channel.LeadsTo spec services host described endpoint) (message : Message) :
    Wrapper.sessionOf (channel.contextOf message hosting owned)
        (middle.callStarted (channel.contextOf message hosting owned)) =
      .scope (channel.scope?.getD before.container.nextScope) := by
  cases staffed with
  | activated mode activation =>
    rw [leads.describes.activator] at activation
    obtain ⟨session, -⟩ := InstanceContext.opens_of_activate (by decide) activation
    obtain ⟨object, rfl⟩ := InstanceContext.activate_ok activation
    have bare : channel.kept = none := leads.bare (by simp [mode])
    simpa [Wrapper.sessionOf, Channel.contextOf, InstanceContext.isSingleton,
      InstanceMode.isSingleton, Channel.scope?, bare] using session
  | kept mode kept =>
    obtain ⟨scope, object, here⟩ := leads.manned mode
    obtain rfl := Option.some.inj (kept.symm.trans here)
    simp [Wrapper.sessionOf, Channel.contextOf, InstanceContext.isSingleton,
      InstanceMode.isSingleton, Channel.scope?, kept]
  | single mode single =>
    obtain ⟨object, here⟩ := leads.describes.single mode
    obtain rfl := Option.some.inj (single.symm.trans here)
    have bare : channel.kept = none := leads.bare (by simp [mode])
    simp [Wrapper.sessionOf, Channel.contextOf, InstanceContext.isSingleton,
      InstanceMode.isSingleton, Channel.scope?, bare, ServiceState.callStarted,
      Container.nextScope, Container.report]

end Endpoint.Staffs

section

variable (wired : host.registry.IsWired services wrapper?)

include wired

/-- However a call ends, it goes by moves. -/
theorem Host.Calls.moves {channel : Channel} {message : Message} {before : ServiceState σ}
    {result : Except Failure Outcome × ServiceState σ}
    (calls : host.Calls services channel message before result)
    {described : EndpointSpec σ} {endpoint : Endpoint σ}
    (leads : channel.LeadsTo spec services host described endpoint) :
    Moves services before.container result.2.container := by
  cases calls with
  | lost | unknown | unkept | unopened => exact Moves.refl _
  | inactive found chosen mode activation =>
    rw [(leads.describes_of_found found).activator] at activation
    exact InstanceContext.moves_activate activation
  | missed found chosen staffed missing =>
    exact ((staffed.moves (leads.describes_of_found found)).report _).releaseCall _
  | miscounted found chosen staffed looked differs =>
    exact (staffed.moves (leads.describes_of_found found)).releaseCall _
  | @invoked endpoint signature adapter hosting owned middle ended found chosen staffed looked
      count invocation =>
    have invoked := wired.moves_invoke looked hosting.served (.holding message.arguments)
      (middle.callStarted (channel.contextOf message hosting owned))
    rw [invocation] at invoked
    have started := (staffed.moves (leads.describes_of_found found)).report .invoking
    exact (started.trans invoked).endCall _ _

/-- Every command goes by moves. -/
theorem Switchboard.Executes.moves {shared : AdapterRegistry σ} {start opened : ServiceState σ}
    (opening : (Host.openWith spec shared).run services start = (.ok host, opened))
    {board : Switchboard σ} (uses : board.Uses spec services host) {command : Command}
    {result : Except Failure Answer × Switchboard σ} (executes : board.Executes command result) :
    Moves services board.state.container result.2.state.container := by
  obtain ⟨host', services', channels, state⟩ := board
  obtain rfl : host' = host := uses.sameHost
  obtain rfl : services' = services := uses.sameServices
  have connects : ∀ {address result after},
      (host'.openChannel address).run services' state = (result, after) →
      Moves services' state.container after.container := by
    intro address result after connecting
    have connects := host'.connects services' address state
    rw [connecting] at connects
    cases connects with
    | unknown => exact Moves.refl _
    | plain => exact (Moves.refl _).report _
    | inactive found mode activation =>
      obtain ⟨described, -, -, describes⟩ := Host.described_of_openWith opening found
      rw [describes.activator] at activation
      exact InstanceContext.moves_activate activation
    | manned session sessions found mode activation =>
      obtain ⟨described, -, -, describes⟩ := Host.described_of_openWith opening found
      rw [describes.activator] at activation
      exact (InstanceContext.moves_activate activation).report _
  cases executes with
  | unsent | absent => exact Moves.refl _
  | refused connecting => exact connects connecting
  | opened connecting free => exact connects connecting
  | replaced connecting used => exact (connects connecting).closeChannel _
  | @called name channel message result after found calling =>
    obtain ⟨described, endpoint, leads⟩ := uses.leads found
    have calls := host'.calls services' channel message state
    rw [show (host'.call channel message).run services' state = _ from calling] at calls
    exact calls.moves wired leads
  | closed found => exact (Moves.refl _).closeChannel _

end

namespace InstanceContext

variable {key service : ServiceKey} {object : InstanceId} {mode : InstanceMode}
  {contract : String} {hosting : InstanceContext} {before after : ServiceState σ}

/-- The session of an instance has answered an instance of a key while the one of a service was
activated. -/
inductive Obtains (services : Services σ) (service : ServiceKey) (hosting : InstanceContext)
    (before after : Container σ) (key : ServiceKey) (object : InstanceId) : Prop where
  /-- The factory of the service has been given it. -/
  | given {recipe : Recipe σ}
      (registered : services.get? service = some ⟨.transient, .factory recipe⟩)
      (mem : (key, some object) ∈ Resolution.given
        (Resolution.findWithin (services.size - 1) (begin hosting.mode before).1) services recipe
        (begin hosting.mode before).2) :
      Obtains services service hosting before after key object
  /-- The session shares it since, whichever factory has asked for it. -/
  | shared (held : (after.cache (.session hosting.session)).get? key = some object) :
      Obtains services service hosting before after key object

/-- The session of a new instance context is there. -/
theorem hasCache_begin (mode : InstanceMode) (container : Container σ) :
    (begin mode container).2.HasCache (.session (begin mode container).1) := by
  have latest : container.openScope.2.HasCache (.session (.scope container.openScope.1)) := by
    have longer : container.openScope.2.scopes.length = container.scopes.length + 1 :=
      List.length_append
    change container.scopes.length < container.openScope.2.scopes.length
    rw [longer]
    exact Nat.lt_succ_self _
  cases mode with
  | single => trivial
  | perCall | perSession => exact latest

/-- An instance that is activated has been built by its factory from what that was given, if the
service is transient. -/
theorem follow_of_activate {recipe : Recipe σ}
    (registered : services.get? service = some ⟨.transient, .factory recipe⟩)
    (activated : (activate mode (.ofService service contract)).run services before =
      (.ok hosting, after)) :
    ∃ last, (Resolution.follow (Resolution.findWithin (services.size - 1)
          (begin mode before.container).1) recipe []).run services
            (begin mode before.container).2 = (.ok hosting.served.object, last) ∧
      after.container = last.report (.instanceOpened mode contract) := by
  rw [run_activate] at activated
  dsimp only at activated
  cases answered : (Resolution.require (begin mode before.container).1 service).run services
      (begin mode before.container).2 with
  | mk found last =>
    rw [answered] at activated
    cases found with
    | error failure => cases activated
    | ok object =>
      obtain ⟨rfl, rfl⟩ : _ = hosting ∧ _ = after := by simpa using activated
      exact ⟨last, Resolution.run_follow_of_require registered answered, rfl⟩

/-- The session shares every scoped service that the instance has obtained. -/
theorem Obtains.held {supply : Supply σ}
    (obtains : Obtains services service hosting before.container after.container key object)
    (registered : services.get? key = some ⟨.scoped, supply⟩)
    (activated : (activate mode (.ofService service contract)).run services before =
      (.ok hosting, after)) :
    (after.container.cache (.session hosting.session)).get? key = some object := by
  cases obtains with
  | shared held => exact held
  | @given recipe made mem =>
    obtain ⟨served, rfl⟩ := activate_ok activated
    obtain ⟨last, follows, same⟩ := follow_of_activate made activated
    have held := Resolution.held_of_given
      (Resolution.findsBySteps_findWithin services (begin mode before.container).1 _)
      (fun present answered => Resolution.held_of_findWithin registered present answered)
      recipe [] (hasCache_begin mode before.container) mem
    rw [follows] at held
    rw [same]
    exact held

end InstanceContext

/-- A call is served by a wrapper that is given an instance for a key. -/
inductive Host.Injects (host : Host σ) (services : Services σ)
    (wrapper? : String → Option (Wrapper σ)) (channel : Channel) (message : Message)
    (before : ServiceState σ) (key : ServiceKey) (object : InstanceId) : Prop where
  /-- The operation is found, an instance serves it, its adapter is invoked and gets its arguments
  from the slots, and the wrapper behind the adapter injects. -/
  | intro {endpoint : Endpoint σ} {signature : Signature} {adapter : Adapter σ}
      {wrapper : Wrapper σ} {hosting : InstanceContext} {owned : Bool} {middle : ServiceState σ}
      {passed : List Value}
      (found : host.endpoint? channel.address = some endpoint)
      (chosen : (endpoint.operations.find? fun signature => signature.method = message.action) =
        some signature)
      (staffed : endpoint.Staffs services channel before hosting owned middle)
      (looked : host.registry.lookup signature.key.text = .ok adapter)
      (wraps : wrapper? signature.key.text = some wrapper)
      (count : message.arguments.length = adapter.plan.slots)
      (typed : hosting.served.typeName = adapter.contract)
      (taken : AdapterPlan.takeArguments adapter.plan.bindings (.holding message.arguments) =
        .ok passed)
      (injects : wrapper.Injects services (channel.contextOf message hosting owned)
        (middle.callStarted (channel.contextOf message hosting owned)) key object) :
      Injects host services wrapper? channel message before key object

namespace Host.Injects

variable {channel : Channel} {message : Message} {before middle : ServiceState σ}
  {key : ServiceKey} {object object' : InstanceId} {supply : Supply σ}
  {described : EndpointSpec σ} {endpoint : Endpoint σ} {hosting : InstanceContext} {owned : Bool}

/-- A call that injects is served by an instance. -/
theorem staffed (injects : host.Injects services wrapper? channel message before key object)
    (found : host.endpoint? channel.address = some endpoint) :
    ∃ hosting owned middle, endpoint.Staffs services channel before hosting owned middle := by
  obtain ⟨found', -, staffed, -, -, -, -, -, -⟩ := injects
  obtain rfl := Option.some.inj (found.symm.trans found')
  exact ⟨_, _, _, staffed⟩

/-- All injections of a scoped service within one call give one instance. -/
theorem unique (injects : host.Injects services wrapper? channel message before key object)
    (injects' : host.Injects services wrapper? channel message before key object')
    (registered : services.get? key = some ⟨.scoped, supply⟩)
    (leads : channel.LeadsTo spec services host described endpoint)
    (keeps : ∀ {id}, channel.scope? = some id →
      before.container.openness[id.index]? = some true) : object = object' := by
  obtain ⟨found, chosen, staffed, -, wraps, -, -, -, injects⟩ := injects
  obtain ⟨found', chosen', staffed', -, wraps', -, -, -, injects'⟩ := injects'
  obtain rfl := Option.some.inj (leads.found.symm.trans found)
  obtain rfl := Option.some.inj (leads.found.symm.trans found')
  obtain rfl := Option.some.inj (chosen.symm.trans chosen')
  obtain rfl := Option.some.inj (wraps.symm.trans wraps')
  obtain ⟨rfl, rfl, rfl⟩ := staffed.unique staffed'
  exact injects.unique registered (fun _ => staffed.isOpen leads keeps) injects'

variable (wired : host.registry.IsWired services wrapper?)

include wired

/-- A call that succeeds injects an instance for each binding of its wrapper to a service that has
to be there, if its adapter tells failures from values. -/
theorem of_ok {outcome : Outcome} {after : ServiceState σ}
    (succeeded : (host.call channel message).run services before = (.ok outcome, after))
    {signature : Signature} {wrapper : Wrapper σ}
    (found : host.endpoint? channel.address = some endpoint)
    (chosen : (endpoint.operations.find? fun signature => signature.method = message.action) =
      some signature)
    {adapter : Adapter σ} (looked : host.registry.lookup signature.key.text = .ok adapter)
    (surfaces : adapter.plan.surfaces = true)
    (wraps : wrapper? signature.key.text = some wrapper) {place : Nat}
    {injected : Injected TargetType} (asks : wrapper.plan.injected[place]? = some injected)
    (named : injected.key? = some key) (required : injected.isOptional = false) :
    ∃ object, host.Injects services wrapper? channel message before key object := by
  have calls := host.calls services channel message before
  generalize (host.call channel message).run services before = result at succeeded calls
  cases calls with
  | lost | unknown | inactive | unkept | unopened | missed | miscounted => cases succeeded
  | @invoked endpoint' signature' adapter' hosting owned middle ended found' chosen' staffed looked'
      count invocation =>
    obtain rfl := Option.some.inj (found.symm.trans found')
    obtain rfl := Option.some.inj (chosen.symm.trans chosen')
    obtain rfl := Except.ok.inj (looked.symm.trans looked')
    have answered : ended = (.ok outcome, ended.2) := by rw [← (Prod.mk.inj succeeded).1]
    obtain ⟨typed, passed, result, taken, replied, succeeds⟩ :=
      Adapter.run_invoke_ok (invocation.trans answered)
    obtain ⟨reply, rfl⟩ := succeeds surfaces
    rw [wired.wraps looked wraps] at replied
    obtain ⟨object, injects⟩ := Wrapper.injects_of_ok rfl replied asks named required
    exact ⟨object, .intro found chosen staffed looked wraps count typed taken injects⟩

/-- A scoped service that a call injects is at some point of the call what the scope of the channel
shares, or else the first scope that the call opens; that scope is open then. -/
theorem passes (injects : host.Injects services wrapper? channel message before key object)
    (registered : services.get? key = some ⟨.scoped, supply⟩)
    (leads : channel.LeadsTo spec services host described endpoint)
    (keeps : ∀ {id}, channel.scope? = some id → before.container.openness[id.index]? = some true)
    (staffed : endpoint.Staffs services channel before hosting owned middle) :
    ∃ point, Moves services middle.container point ∧
      point.openness[(channel.scope?.getD before.container.nextScope).index]? = some true ∧
      (point.cache (.session (.scope (channel.scope?.getD before.container.nextScope)))).get? key =
        some object ∧
      Moves services point ((host.call channel message).run services before).2.container := by
  obtain ⟨found, chosen, staffed', looked, wraps, count, typed, taken, injects⟩ := injects
  obtain rfl := Option.some.inj (leads.found.symm.trans found)
  obtain ⟨rfl, rfl, rfl⟩ := staffed.unique staffed'
  obtain ⟨point, earlier, isOpen, held, later⟩ := injects.passes
    (wired.implementation wraps) registered rfl (staffed.sessionOf_eq leads message)
    (fun _ => staffed.isOpen leads keeps) hosting.served.object _
  refine ⟨point, ((Moves.refl _).report .invoking).trans earlier, isOpen, held, ?_⟩
  rw [run_call found chosen staffed, AdapterRegistry.dispatchSignature,
    AdapterRegistry.run_dispatch looked, if_pos count, AdapterRegistry.run_invoke,
    Adapter.run_invoke typed, taken, wired.wraps looked wraps]
  exact later.endCall _ _

end Host.Injects

end ServiceDispatch
