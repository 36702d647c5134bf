import ServiceDispatch.Proofs.Host.Calls
import ServiceDispatch.Proofs.Registry.Ledger
import ServiceDispatch.Sample.Calculator

/-!
# Integrity of opened hosts

A host that is opened over the adapters of its contracts, with no key used twice, answers every call
by the contract alone: it looks the operation up, has an instance, counts the arguments and invokes
the adapter that the contract generates for the operation. What factories and methods answer is
theirs to say; the host adds no failure that would show a fault of its own or of start-up.
-/

namespace ServiceDispatch

section

variable {σ : Type} {services : Services σ} {host : Host σ} {spec : HostSpec σ}

namespace ServedContract

/-- A contract is generated from operations and their methods. -/
def IsGenerated (contract : ServedContract σ) : Prop :=
  ∃ operations, contract = .ofOperations contract.name contract.typeName operations

/-- The adapter that a contract generates for an action. -/
def adapter? (contract : ServedContract σ) (action : String) : Option (Adapter σ) :=
  contract.adapters.find? fun adapter => adapter.signature.method = action

variable {contract : ServedContract σ} {action : String}

/-- An adapter of a generated contract wants an instance of the contract, and a slot for each
parameter that flows in. -/
theorem IsGenerated.adapter (generated : contract.IsGenerated) {adapter : Adapter σ}
    (mem : adapter ∈ contract.adapters) :
    adapter.contract = contract.typeName ∧ adapter.plan.slots = adapter.signature.inputCount := by
  obtain ⟨operations, same⟩ := generated
  rw [same] at mem
  obtain ⟨operation, -, rfl⟩ := List.mem_map.mp mem
  exact ⟨rfl, rfl⟩

theorem operation_eq_map_adapter? (contract : ServedContract σ) (action : String) :
    (contract.operations.find? fun signature => signature.method = action) =
      (contract.adapter? action).map (·.signature) := by
  rw [operations, adapter?, List.find?_map]
  rfl

/-- An action names an operation exactly if there is an adapter for it. -/
theorem adapter?_eq_none_iff :
    contract.adapter? action = none ↔
      ∀ operation ∈ contract.operations, operation.method ≠ action := by
  simp [adapter?, operations]

theorem mem_of_adapter? {adapter : Adapter σ} (chosen : contract.adapter? action = some adapter) :
    adapter ∈ contract.adapters :=
  List.mem_of_find?_eq_some chosen

end ServedContract

/-- The registry of a host is made of linked adapters, those of its contracts among them, and was
sealed with collisions rejected. -/
structure HostSpec.IsLinked (spec : HostSpec σ) (shared : AdapterRegistry σ)
    (linked : List (CanonicalKey × Adapter σ)) : Prop where
  /-- The contracts are generated. -/
  generated : ∀ endpoint ∈ spec.endpoints, endpoint.contract.IsGenerated
  /-- All their adapters are linked. -/
  complete : ∀ endpoint ∈ spec.endpoints, ∀ entry ∈ endpoint.contract.entries, entry ∈ linked
  /-- The host uses the registry of the linked adapters. -/
  seals : (Registry.ofEntries linked).trySeal true = (.ok (), (spec.sealRegistry shared).2)

/-- The registry of an open host has the adapter of every operation under the key of the
operation. -/
theorem HostSpec.IsLinked.lookup {shared : AdapterRegistry σ}
    {linked : List (CanonicalKey × Adapter σ)} (isLinked : spec.IsLinked shared linked)
    {start opened : ServiceState σ}
    (opening : (Host.openWith spec shared).run services start = (.ok host, opened))
    {described : EndpointSpec σ} (mem : described ∈ spec.endpoints) {adapter : Adapter σ}
    (generates : adapter ∈ described.contract.adapters) :
    host.registry.lookup adapter.signature.key.text = .ok adapter := by
  have entry : (adapter.key, adapter) ∈ described.contract.entries :=
    List.mem_map.mpr ⟨adapter, generates, rfl⟩
  rw [Host.registry_of_openWith opening]
  exact Registry.lookup_of_mem isLinked.seals (isLinked.complete described mem _ entry)

/-- How a call at an endpoint may end, told by the contract. -/
inductive EndpointSpec.Answers (described : EndpointSpec σ) (endpoint : Endpoint σ)
    (services : Services σ) (channel : Channel) (message : Message) (before : ServiceState σ) :
    Except Failure Outcome × ServiceState σ → Prop where
  /-- The action names no operation of the contract. -/
  | unknown (absent : ∀ operation ∈ described.contract.operations,
        operation.method ≠ message.action) :
      Answers described endpoint services channel message before
        (.error (.unknownOperation described.contract.name message.action), before)
  /-- It names one, but no instance can be activated for the call. -/
  | inactive {adapter : Adapter σ} {failure : Failure} {after : ServiceState σ}
      (chosen : described.contract.adapter? message.action = some adapter)
      (activation : (InstanceContext.activate .perCall described.activator).run services before =
        (.error failure, after)) :
      Answers described endpoint services channel message before (.error failure, after)
  /-- There is an instance, but the number of arguments is not that of the operation. -/
  | miscounted {adapter : Adapter σ} {hosting : InstanceContext} {owned : Bool}
      {middle : ServiceState σ}
      (chosen : described.contract.adapter? message.action = some adapter)
      (staffed : endpoint.Staffs services channel before hosting owned middle)
      (differs : message.arguments.length ≠ adapter.signature.inputCount) :
      Answers described endpoint services channel message before
        (.error (.argumentCount adapter.key.text adapter.signature.inputCount
            message.arguments.length),
          { middle with
            container :=
              middle.container.releaseCall (channel.contextOf message hosting owned) })
  /-- The adapter that the contract generates for the operation is invoked on an instance of the
  contract, with all arguments in their slots, and its answer is the answer. -/
  | invoked {adapter : Adapter σ} {hosting : InstanceContext} {owned : Bool}
      {middle : ServiceState σ} {object : InstanceId}
      {ended : Except Failure Outcome × ServiceState σ}
      (chosen : described.contract.adapter? message.action = some adapter)
      (staffed : endpoint.Staffs services channel before hosting owned middle)
      (served : hosting.served = .ofType adapter.contract object)
      (count : message.arguments.length = adapter.signature.inputCount)
      (invocation : (adapter.invoke hosting.served (.holding message.arguments)).run services
        (middle.callStarted (channel.contextOf message hosting owned)) = ended) :
      Answers described endpoint services channel message before
        (ended.1, middle.callEnded (channel.contextOf message hosting owned) ended)

/-- The instance that serves a call is one of the contract. -/
theorem Channel.LeadsTo.served {channel : Channel} {described : EndpointSpec σ}
    {endpoint : Endpoint σ} (leads : channel.LeadsTo spec services host described endpoint)
    {before middle : ServiceState σ} {hosting : InstanceContext} {owned : Bool}
    (staffed : endpoint.Staffs services channel before hosting owned middle) :
    ∃ object, hosting.served = .ofType described.contract.typeName object := by
  cases staffed with
  | activated mode activation =>
    rw [leads.describes.activator] at activation
    obtain ⟨object, rfl⟩ := InstanceContext.activate_ok activation
    exact ⟨object, rfl⟩
  | kept mode kept =>
    obtain ⟨scope, object, here⟩ := leads.manned mode
    obtain rfl := Option.some.inj (kept.symm.trans here)
    exact ⟨object, rfl⟩
  | single mode single =>
    obtain ⟨object, here⟩ := leads.describes.single mode
    obtain rfl := Option.some.inj (single.symm.trans here)
    exact ⟨object, rfl⟩

/-- A host that is linked properly answers every call by the contract. -/
theorem Host.answers {shared : AdapterRegistry σ} {linked : List (CanonicalKey × Adapter σ)}
    (isLinked : spec.IsLinked shared linked) {start opened : ServiceState σ}
    (opening : (openWith spec shared).run services start = (.ok host, opened))
    {channel : Channel} {described : EndpointSpec σ} {endpoint : Endpoint σ}
    (leads : channel.LeadsTo spec services host described endpoint) (message : Message)
    (before : ServiceState σ) :
    described.Answers endpoint services channel message before
      ((host.call channel message).run services before) := by
  have generated := isLinked.generated described leads.mem
  have named := described.contract.operation_eq_map_adapter? message.action
  rw [← leads.describes.operations] at named
  have calls := host.calls services channel message before
  generalize (host.call channel message).run services before = result at calls
  -- the endpoint and the adapter that a way of the call speaks of are those of the contract
  have same : ∀ {endpoint' : Endpoint σ},
      host.endpoint? channel.address = some endpoint' → endpoint = endpoint' := by
    intro endpoint' found
    exact Option.some.inj (leads.found.symm.trans found)
  have known : ∀ {signature : Signature},
      (endpoint.operations.find? fun signature => signature.method = message.action) =
        some signature →
      ∃ adapter, described.contract.adapter? message.action = some adapter ∧
        adapter.signature = signature ∧ adapter.contract = described.contract.typeName ∧
        adapter.plan.slots = adapter.signature.inputCount ∧
        host.registry.lookup signature.key.text = .ok adapter := by
    intro signature chosen
    rw [named] at chosen
    obtain ⟨adapter, here, rfl⟩ := Option.map_eq_some_iff.mp chosen
    have mem := ServedContract.mem_of_adapter? here
    exact ⟨adapter, here, rfl, (generated.adapter mem).1, (generated.adapter mem).2,
      isLinked.lookup opening leads.mem mem⟩
  cases calls with
  | lost missing =>
    rw [leads.found] at missing
    cases missing
  | unknown found absent =>
    obtain rfl := same found
    rw [named, Option.map_eq_none_iff] at absent
    rw [leads.describes.contract]
    exact .unknown (ServedContract.adapter?_eq_none_iff.mp absent)
  | inactive found chosen mode activation =>
    obtain rfl := same found
    obtain ⟨adapter, here, -⟩ := known chosen
    rw [leads.describes.activator] at activation
    exact .inactive here activation
  | unkept found mode bare =>
    obtain rfl := same found
    obtain ⟨scope, object, kept⟩ := leads.manned mode
    rw [bare] at kept
    cases kept
  | unopened found mode bare =>
    obtain rfl := same found
    obtain ⟨object, single⟩ := leads.describes.single mode
    rw [bare] at single
    cases single
  | missed found chosen staffed missing =>
    obtain rfl := same found
    obtain ⟨adapter, -, -, -, -, looked⟩ := known chosen
    rw [looked] at missing
    cases missing
  | miscounted found chosen staffed looked differs =>
    obtain rfl := same found
    obtain ⟨adapter, here, rfl, -, slots, looked'⟩ := known chosen
    obtain rfl := Except.ok.inj (looked'.symm.trans looked)
    rw [slots] at differs ⊢
    exact .miscounted here staffed differs
  | invoked found chosen staffed looked count invocation =>
    obtain rfl := same found
    obtain ⟨adapter, here, rfl, wants, slots, looked'⟩ := known chosen
    obtain rfl := Except.ok.inj (looked'.symm.trans looked)
    obtain ⟨object, served⟩ := leads.served staffed
    rw [slots] at count
    exact .invoked here staffed (wants ▸ served) count invocation

/-- A failure that shows a fault of start-up or of the host itself. -/
inductive Failure.IsIntegrityFault : Failure → Prop where
  /-- An operation has no adapter. -/
  | registryMiss (key : String) : IsIntegrityFault (.registryMiss key)
  /-- The instance is not one of the adapter's contract. -/
  | instanceTypeMismatch (expected : String) : IsIntegrityFault (.instanceTypeMismatch expected)
  /-- The channel leads nowhere. -/
  | unknownEndpoint (address : String) : IsIntegrityFault (.unknownEndpoint address)
  /-- The instance that should serve all calls is not there. -/
  | noSingle : IsIntegrityFault (.internal "single instance context was not opened")
  /-- The instance that a channel should keep is not there. -/
  | noSession : IsIntegrityFault (.internal "session instance context was not opened")
  /-- An argument was put into a slot that does not exist. -/
  | outOfRange (position length : Nat) :
      IsIntegrityFault (.internal ("input slot " ++ toString position ++
        " out of range for buffer of " ++ toString length))

/-- A failure is what the hosted program answered: a factory on which the activation of the service
depends, or the method of the operation. -/
inductive EndpointSpec.Blames (described : EndpointSpec σ) (services : Services σ)
    (action : String) : Failure → Prop where
  /-- The service was not resolved. -/
  | factory {failure : Failure} {session : Session} {before after : Container σ}
      (fails : (Resolution.require session described.service).run services before =
        (.error failure, after)) :
      Blames described services action failure
  /-- The method failed. -/
  | method {adapter : Adapter σ} {object : InstanceId} {passed : List Value}
      {error : OperationError} {before after : ServiceState σ}
      (chosen : described.contract.adapter? action = some adapter)
      (fails : (adapter.method object passed).run services before = (.error error, after)) :
      Blames described services action (Failure.surface error)

/-- Arguments cannot be taken for two reasons. -/
theorem AdapterPlan.takeArguments_error {bindings : List (Binding ValueType)}
    {inputs : InputBuffer} {failure : Failure}
    (fails : takeArguments bindings inputs = .error failure) :
    (∃ position, failure = .missingInput position) ∨
      ∃ position typeName, failure = .inputTypeMismatch position typeName := by
  induction bindings generalizing inputs with
  | nil => cases fails
  | cons binding rest ih =>
    rw [takeArguments] at fails
    cases source : binding.source with
    | initial =>
      rw [source] at fails
      dsimp only at fails
      cases others : takeArguments rest inputs with
      | ok passed => simp [others, Except.map] at fails
      | error failure' =>
        simp only [others, Except.map, Except.error.injEq] at fails
        exact ih (fails ▸ others)
    | slot index =>
      rw [source] at fails
      dsimp only at fails
      rw [InputBuffer.take] at fails
      cases held : inputs.held? index with
      | none =>
        simp only [held, Except.error.injEq] at fails
        exact .inl ⟨index, fails.symm⟩
      | some value =>
        simp only [held] at fails
        by_cases typed : value.type = binding.type
        · simp only [typed, if_true] at fails
          cases others : takeArguments rest ⟨inputs.slots.set index none⟩ with
          | ok passed => simp [others, Except.map] at fails
          | error failure' =>
            simp only [others, Except.map, Except.error.injEq] at fails
            exact ih (fails ▸ others)
        · simp only [typed, if_false, Except.error.injEq] at fails
          exact .inr ⟨index, _, fails.symm⟩

/-- The host and its dispatcher answer with no fault of their own. -/
theorem EndpointSpec.Answers.blames {described : EndpointSpec σ} {endpoint : Endpoint σ}
    {channel : Channel} {message : Message} {before : ServiceState σ}
    {result : Except Failure Outcome × ServiceState σ}
    (answers : described.Answers endpoint services channel message before result)
    {failure : Failure} (failed : result.1 = .error failure) (fault : failure.IsIntegrityFault) :
    described.Blames services message.action failure := by
  cases answers with
  | unknown absent =>
    obtain rfl := Except.error.inj failed
    cases fault
  | inactive chosen activation =>
    obtain rfl := Except.error.inj failed
    rw [activator, InstanceContext.run_activate] at activation
    dsimp only at activation
    cases answered : (Resolution.require (InstanceContext.begin .perCall before.container).1
        described.service).run services (InstanceContext.begin .perCall before.container).2 with
    | mk found after =>
      rw [answered] at activation
      cases found with
      | ok object => simp at activation
      | error cause =>
        obtain rfl := Except.error.inj (Prod.mk.inj activation).1
        exact .factory answered
  | miscounted chosen staffed differs =>
    obtain rfl := Except.error.inj failed
    cases fault
  | @invoked adapter hosting owned middle object ended chosen staffed served count invocation =>
    rw [Adapter.run_invoke (congrArg ServiceInstance.typeName served)] at invocation
    subst invocation
    cases taken : AdapterPlan.takeArguments adapter.plan.bindings
        (.holding message.arguments) with
    | error cause =>
      rw [taken] at failed
      obtain rfl := Except.error.inj failed
      obtain ⟨position, rfl⟩ | ⟨position, typeName, rfl⟩ :=
        AdapterPlan.takeArguments_error taken <;> cases fault
    | ok passed =>
      rw [taken] at failed
      dsimp only at failed
      cases replied : (adapter.method hosting.served.object passed).run services
          (middle.callStarted (channel.contextOf message hosting owned)) with
      | mk reply after =>
        rw [replied] at failed
        cases reply with
        | ok reply => cases failed
        | error error =>
          cases surfaces : adapter.plan.surfaces with
          | false => simp [Adapter.answer, surfaces] at failed
          | true =>
            obtain rfl : Failure.surface error = failure := by
              simpa [Adapter.answer, surfaces] using failed
            exact .method chosen replied

/-- An action that names no operation is refused as such. -/
theorem EndpointSpec.Answers.eq_of_absent {described : EndpointSpec σ} {endpoint : Endpoint σ}
    {channel : Channel} {message : Message} {before : ServiceState σ}
    {result : Except Failure Outcome × ServiceState σ}
    (answers : described.Answers endpoint services channel message before result)
    (absent : ∀ operation ∈ described.contract.operations, operation.method ≠ message.action) :
    result = (.error (.unknownOperation described.contract.name message.action), before) := by
  rw [← ServedContract.adapter?_eq_none_iff] at absent
  cases answers with
  | unknown => rfl
  | inactive chosen | miscounted chosen | invoked chosen =>
    rw [absent] at chosen
    cases chosen

/-- At every point of every run every call is answered by the contract of its endpoint, and a
failure that would show a fault of the host is never the host's own. -/
theorem Host.call_integrity {shared : AdapterRegistry σ}
    {linked : List (CanonicalKey × Adapter σ)} (isLinked : spec.IsLinked shared linked)
    {start opened : ServiceState σ}
    (opening : (openWith spec shared).run services start = (.ok host, opened))
    (commands : List Switchboard.Command) {name : String} {channel : Channel}
    (found : ((Switchboard.start host services opened).after commands).channels.get? name =
      some channel) (message : Message) :
    ∃ described ∈ spec.endpoints, described.address = channel.address ∧
      ∃ endpoint result after,
        ((Switchboard.start host services opened).after commands).execute (.call name message) =
          (result.map .served,
            { (Switchboard.start host services opened).after commands with state := after }) ∧
        described.Answers endpoint services channel message
          ((Switchboard.start host services opened).after commands).state (result, after) ∧
        ((∀ operation ∈ described.contract.operations, operation.method ≠ message.action) →
          result = .error (.unknownOperation described.contract.name message.action)) ∧
        ∀ failure, result = .error failure → failure.IsIntegrityFault →
          described.Blames services message.action failure := by
  have uses := Switchboard.uses_after opening commands
  obtain ⟨described, endpoint, leads⟩ := uses.leads found
  generalize (Switchboard.start host services opened).after commands = board at uses found ⊢
  obtain ⟨host', services', channels, state⟩ := board
  obtain rfl : host' = host := uses.sameHost
  obtain rfl : services' = services := uses.sameServices
  have answers := answers isLinked opening leads message state
  refine ⟨described, leads.mem, leads.address, endpoint, _, _, ?_, answers,
    fun absent => congrArg Prod.fst (answers.eq_of_absent absent), fun failure => answers.blames⟩
  rw [Switchboard.execute]
  dsimp only at found ⊢
  rw [found]
  rfl

end

namespace Calculators

open Sample (Content)

/-- The service behind both contracts. -/
def service : ServiceKey := ⟨"Calculator", none⟩

/-- Instances are built on every request. -/
def services : Services Content :=
  Services.empty.add service .transient (.factory (.build "Calculator" .plain))

/-- The adapters of two contracts whose operations are named alike. -/
def linked : List (CanonicalKey × Adapter Content) :=
  Sample.Calculator.first.entries ++ Sample.Calculator.second.entries

/-- One contract with sessions, the other one without. -/
def spec : HostSpec Content where
  settings := .standard
  registry := some (.ofEntries linked)
  endpoints :=
    [⟨"tcp", Sample.Calculator.first, service, none, .netTcp⟩,
      ⟨"http", Sample.Calculator.second, service, none, .basicHttp⟩]

/-- What opening the host comes to. -/
def opening : Except Failure (Host Content) × ServiceState Content :=
  (Host.openWith spec .empty).run services (.initial .empty)

/-- The open host. -/
def host : Host Content := opening.1.toOption.getD ⟨.empty, .empty⟩

/-- A channel to each endpoint, and one to nowhere. -/
def commands : List Switchboard.Command :=
  [.openChannel "a" "tcp", .openChannel "b" "http", .openChannel "c" "elsewhere"]

/-- An addition. -/
def addition : Message := ⟨"add", [.i32 1, .i32 2], .empty⟩

theorem openWith_spec :
    (Host.openWith spec .empty).run services (.initial .empty) = (.ok host, opening.2) := by
  have succeeded : opening.1.isOk = true := by decide +kernel
  exact eq_of_isOk _ succeeded

theorem isLinked_spec : spec.IsLinked .empty linked where
  generated endpoint mem := by
    obtain rfl | rfl : endpoint = _ ∨ endpoint = _ := by simpa [spec] using mem
    · exact ⟨_, rfl⟩
    · exact ⟨_, rfl⟩
  complete endpoint mem entry generates := by
    obtain rfl | rfl : endpoint = _ ∨ endpoint = _ := by simpa [spec] using mem
    · exact List.mem_append_left _ generates
    · exact List.mem_append_right _ generates
  seals := by
    have succeeded : ((Registry.ofEntries linked).trySeal true).1.isOk = true := by decide +kernel
    exact eq_of_isOk () succeeded

theorem found_channel :
    ((Switchboard.start host services opening.2).after commands).channels.get? "b" =
      some ⟨"http", none, none⟩ := by
  decide +kernel

end Calculators

open Calculators in
theorem Host.call_integrity_calculators :
    spec.IsLinked .empty linked ∧
      (Host.openWith spec .empty).run services (.initial .empty) = (.ok host, opening.2) ∧
      ((Switchboard.start host services opening.2).after commands).channels.get? "b" =
        some ⟨"http", none, none⟩ ∧
      ∃ described ∈ spec.endpoints, described.address = "http" ∧
        ∃ endpoint result after,
          ((Switchboard.start host services opening.2).after commands).execute
              (.call "b" addition) =
            (result.map .served,
              { (Switchboard.start host services opening.2).after commands with
                state := after }) ∧
          described.Answers endpoint services ⟨"http", none, none⟩ addition
            ((Switchboard.start host services opening.2).after commands).state (result, after) ∧
          ((∀ operation ∈ described.contract.operations, operation.method ≠ "add") →
            result = .error (.unknownOperation described.contract.name "add")) ∧
          ∀ failure, result = .error failure → failure.IsIntegrityFault →
            described.Blames services "add" failure :=
  ⟨isLinked_spec, openWith_spec, found_channel,
    Host.call_integrity isLinked_spec openWith_spec commands found_channel addition⟩

open Calculators in
/-- The second contract answers, though the first one has an operation of the same name. -/
example : ((host.call ⟨"http", none, none⟩ addition).run services opening.2).1.toOption =
    some ⟨some (.i32 1003), []⟩ := by
  decide +kernel

end ServiceDispatch
