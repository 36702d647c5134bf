import ServiceDispatch.Proofs.Host.Calls
import ServiceDispatch.Proofs.Host.Counting
import ServiceDispatch.Proofs.Registry.Ledger

/-!
# Reuse of instances

Every run of an opened host whose operations count: channels are opened, used and closed in any
order, and each successful call answers one more than the number of successful calls of its group
before it. What one command does to the seats is stated first; the run follows by induction. Failing
commands are part of every run and change no count.
-/

namespace ServiceDispatch

open Sample (Content)

section

variable {spec : HostSpec Content} {services : Services Content} {host : Host Content}
  {opening before : Container Content} {state : ServiceState Content}
  {seat : Group → InstanceId → Prop} {attendance : Attendance} {name : String}

/-- How a call through the channel of a name may end: it fails and leaves the seats as they are, or
it answers the number of its group and is noted. -/
def Noted (spec : HostSpec Content) (services : Services Content)
    (seat : Group → InstanceId → Prop) (attendance : Attendance) (name : String) :
    Except Failure Outcome × ServiceState Content → Prop
  | (.error _, after) => Seating seat after.container attendance
  | (.ok outcome, after) => ∃ group, attendance.group? spec services name = some group ∧
      outcome = counted (attendance.served.count group + 1) ∧
      Seating seat after.container { attendance with served := attendance.served ++ [group] }

/-- A call that is served from a seat. -/
theorem Seating.noted_of_seat (seating : Seating seat before attendance) {group : Group}
    {object : InstanceId} (sits : seat group object)
    (named : attendance.group? spec services name = some group)
    {ends : Except Failure Outcome × ServiceState Content}
    (counts : AdapterRegistry.Counts before object (attendance.served.count group) ends) :
    Noted spec services seat attendance name ends := by
  match ends, counts with
  | (.error _, after), kept => exact seating.of_instances_eq kept
  | (.ok outcome, after), ⟨answer, counts⟩ =>
    exact ⟨group, named, answer, seating.serve sits counts⟩

/-- A call that is served by an instance of its own. -/
theorem Seating.noted_of_alone (seating : Seating seat before attendance) {object : InstanceId}
    (alone : ∀ {group}, ¬ seat group object)
    (named : attendance.group? spec services name = some (.call attendance.served.length))
    {ends : Except Failure Outcome × ServiceState Content}
    (counts : AdapterRegistry.Counts before object 0 ends) :
    Noted spec services seat attendance name ends := by
  match ends, counts with
  | (.error _, after), kept => exact seating.of_instances_eq kept
  | (.ok outcome, after), ⟨answer, counts⟩ =>
    refine ⟨_, named, ?_, seating.pass alone counts⟩
    rw [seating.count_call]
    exact answer

/-- A new instance for an endpoint of a service that is not shared has counted nothing. -/
theorem HostSpec.IsCounting.fresh {registry : AdapterRegistry Content}
    (counting : spec.IsCounting services registry) {described : EndpointSpec Content}
    (mem : described ∈ spec.endpoints)
    (unshared : services.lifetime? described.service = some .transient) {mode : InstanceMode}
    {hosting : InstanceContext} {after : ServiceState Content}
    (activated : (InstanceContext.activate mode described.activator).run services state =
      (.ok hosting, after)) :
    state.container.instances.length ≤ hosting.served.object.index ∧
      after.container.content? hosting.served.object = some (.counter 0) := by
  obtain ⟨lifetime, recipe, registered, builds⟩ := counting.factories mem
  rw [Services.lifetime?, registered] at unshared
  obtain rfl : lifetime = .transient := Option.some.inj unshared
  obtain ⟨built, made, new, here⟩ := InstanceContext.activate_transient registered activated
  refine ⟨new, ?_⟩
  rw [Container.content?, here, Option.map_some, builds made]

/-- A call that is served by an instance is counted there, or it fails and nothing is counted. -/
theorem Seating.noted_of_staffed (seating : Seating seat state.container attendance)
    (counting : spec.IsCounting services host.registry)
    (opens : Host.Opened services spec.settings.host.defaultMode spec.endpoints host.endpoints
      opening)
    (first : ∀ {group object}, Host.FirstSeat spec services host group object → seat group object)
    {channel : Channel} {number : Nat}
    (numbered : attendance.channels.get? name = some (number, channel.address))
    (keeps : ∀ {hosting}, channel.kept = some hosting →
      seat (.channel number) hosting.served.object)
    {endpoint : Endpoint Content} {hosting : InstanceContext} {owned : Bool}
    {middle : ServiceState Content} (found : host.endpoint? channel.address = some endpoint)
    (staffed : endpoint.Staffs services channel state hosting owned middle)
    {ends : Except Failure Outcome × ServiceState Content}
    (counts : ∀ {count}, middle.container.content? hosting.served.object = some (.counter count) →
      AdapterRegistry.Counts middle.container hosting.served.object count ends) :
    Noted spec services seat attendance name ends := by
  obtain ⟨described, mem, address, serves⟩ := opens.serves found
  obtain ⟨lifetime, registered, mode⟩ := serves.mode
  have named : attendance.group? spec services name =
      some (described.group spec.settings.host.defaultMode lifetime number
        attendance.served.length) := by
    simp [Attendance.group?, numbered, ← address, opens.find?_address mem, registered]
  cases staffed with
  | activated used activation =>
    rw [mode] at used
    obtain ⟨rfl, alone⟩ := EndpointSpec.group_of_perCall used number attendance.served.length
    rw [alone] at named
    rw [serves.activator] at activation
    have more := InstanceContext.isPrefix_of_activate activation
    obtain ⟨new, counter⟩ := counting.fresh mem registered activation
    refine (seating.of_isPrefix more).noted_of_alone (fun sits => ?_) named (counts counter)
    exact Nat.not_lt_of_le new (seating.index_lt sits)
  | kept used kept =>
    rw [mode] at used
    rw [(EndpointSpec.group_of_perSession used _ _).2] at named
    exact seating.noted_of_seat (keeps kept) named (counts (seating.counts (keeps kept)))
  | single used kept =>
    rw [mode] at used
    rw [EndpointSpec.group_of_single used] at named
    have sits := first ⟨described, mem, lifetime, endpoint, hosting, registered,
      address ▸ found, kept, rfl, rfl⟩
    exact seating.noted_of_seat sits named (counts (seating.counts sits))

/-- A call through a channel of a counting host. -/
theorem noted_call (counting : spec.IsCounting services host.registry)
    (opens : Host.Opened services spec.settings.host.defaultMode spec.endpoints host.endpoints
      opening)
    (seating : Seating seat state.container attendance)
    (first : ∀ {group object}, Host.FirstSeat spec services host group object → seat group object)
    {channel : Channel} {number : Nat}
    (numbered : attendance.channels.get? name = some (number, channel.address))
    (keeps : ∀ {hosting}, channel.kept = some hosting →
      seat (.channel number) hosting.served.object)
    (message : Message) :
    Noted spec services seat attendance name
      ((host.call channel message).run services state) := by
  have calls := host.calls services channel message state
  generalize (host.call channel message).run services state = ends at calls ⊢
  cases calls with
  | lost | unknown | unkept | unopened => exact seating
  | inactive found chosen mode activation =>
    obtain ⟨described, mem, -, serves⟩ := opens.serves found
    rw [serves.activator] at activation
    exact seating.of_isPrefix (InstanceContext.isPrefix_of_activate activation)
  | missed found chosen staffed missing =>
    refine seating.noted_of_staffed counting opens first numbered keeps found staffed fun _ => ?_
    exact Container.instances_releaseCall _ _
  | miscounted found chosen staffed looked differs =>
    refine seating.noted_of_staffed counting opens first numbered keeps found staffed fun _ => ?_
    exact Container.instances_releaseCall _ _
  | invoked found chosen staffed looked count invocation =>
    obtain ⟨described, mem, -, serves⟩ := opens.serves found
    have offered := List.mem_of_find?_eq_some chosen
    rw [serves.operations] at offered
    refine seating.noted_of_staffed counting opens first numbered keeps found staffed
      fun here => ?_
    rw [← invocation, ← AdapterRegistry.run_invoke]
    exact AdapterRegistry.counts_invoke (counting.operations mem offered looked) _ _ here

/-- How opening a channel may end: it fails, or it answers a channel to the address that keeps a new
instance, which has counted nothing, or none. -/
def Connected (before : Container Content) (address : String) :
    Except Failure Channel × ServiceState Content → Prop
  | (.error _, after) => before.instances <+: after.container.instances
  | (.ok channel, after) => channel.address = address ∧
      before.instances <+: after.container.instances ∧
      ∀ {hosting}, channel.kept = some hosting →
        before.instances.length ≤ hosting.served.object.index ∧
          after.container.content? hosting.served.object = some (.counter 0)

/-- Opening a channel to a counting host. -/
theorem connected_openChannel (counting : spec.IsCounting services host.registry)
    (opens : Host.Opened services spec.settings.host.defaultMode spec.endpoints host.endpoints
      opening)
    (address : String) :
    Connected state.container address ((host.openChannel address).run services state) := by
  have connects := host.connects services address state
  generalize (host.openChannel address).run services state = result at connects ⊢
  cases connects with
  | unknown missing => exact List.prefix_rfl
  | plain session sessions found mode => exact ⟨rfl, List.prefix_rfl, by rintro _ ⟨⟩⟩
  | inactive found mode activation =>
    obtain ⟨described, mem, rfl, serves⟩ := opens.serves found
    rw [serves.activator] at activation
    exact InstanceContext.isPrefix_of_activate activation
  | manned session sessions found mode activation =>
    obtain ⟨described, mem, rfl, serves⟩ := opens.serves found
    obtain ⟨lifetime, registered, same⟩ := serves.mode
    rw [serves.activator] at activation
    rw [same] at mode
    obtain ⟨rfl, -⟩ := EndpointSpec.group_of_perSession mode 0 0
    have more := InstanceContext.isPrefix_of_activate activation
    have fresh := counting.fresh mem registered activation
    refine ⟨rfl, more, fun kept => ?_⟩
    obtain rfl := Option.some.inj kept
    exact fresh

/-- Closing a channel leaves every instance as it is. -/
theorem Container.instances_closeChannel {σ : Type} (container : Container σ)
    (channel : Channel) : (container.closeChannel channel).instances = container.instances := by
  rw [closeChannel]
  cases channel.kept with
  | none => rfl
  | some hosting => exact Container.instances_releaseHosting _ _

/-- What holds at every point of a run: the record and the switchboard tell the same story. -/
structure Attended (spec : HostSpec Content) (services : Services Content) (host : Host Content)
    (seat : Group → InstanceId → Prop) (run : Switchboard Content × Attendance) : Prop where
  /-- The host stays. -/
  sameHost : run.1.host = host
  /-- The registrations stay. -/
  sameServices : run.1.services = services
  /-- Instances have counted what is recorded. -/
  seating : Seating seat run.1.state.container run.2
  /-- Instances that serve all calls keep their seats. -/
  first : ∀ {group object}, Host.FirstSeat spec services host group object → seat group object
  /-- Every open channel is recorded with a number, under which the instance that it keeps sits. -/
  channels : ∀ {name channel}, run.1.channels.get? name = some channel →
    ∃ number, run.2.channels.get? name = some (number, channel.address) ∧
      ∀ {hosting}, channel.kept = some hosting → seat (.channel number) hosting.served.object

/-- A host that was just opened is attended by nobody. -/
theorem Attended.start (counting : spec.IsCounting services host.registry)
    (opens : Host.Opened services spec.settings.host.defaultMode spec.endpoints host.endpoints
      state.container) :
    Attended spec services host (Host.FirstSeat spec services host)
      (⟨host, services, .empty, state⟩, .none) where
  sameHost := rfl
  sameServices := rfl
  seating := opens.seating counting
  first := id
  channels absurd := nomatch absurd

variable {run : Switchboard Content × Attendance}

/-- A call that succeeds answers the number of its group. -/
theorem Attended.call (attended : Attended spec services host seat run)
    (counting : spec.IsCounting services host.registry)
    (opens : Host.Opened services spec.settings.host.defaultMode spec.endpoints host.endpoints
      opening)
    {channel : Channel} (found : run.1.channels.get? name = some channel) (message : Message) :
    Noted spec services seat run.2 name
      ((host.call channel message).run services run.1.state) := by
  obtain ⟨number, numbered, keeps⟩ := attended.channels found
  exact noted_call counting opens attended.seating attended.first numbered keeps message

/-- A new channel takes the name of a former one, which is closed. -/
theorem Attended.connect (attended : Attended spec services host seat run) {channel : Channel}
    {after : ServiceState Content} (cleared : Switchboard Content) (name : String)
    (more : run.1.state.container.instances <+: after.container.instances)
    (fresh : ∀ {hosting}, channel.kept = some hosting →
      run.1.state.container.instances.length ≤ hosting.served.object.index ∧
        after.container.content? hosting.served.object = some (.counter 0))
    (clears : cleared.host = run.1.host ∧ cleared.services = run.1.services ∧
      cleared.state.container.instances = after.container.instances ∧
      ∀ other, name ≠ other → cleared.channels.get? other = run.1.channels.get? other) :
    Attended spec services host
      (fun group object => seat group object ∨ group = .channel run.2.opened ∧
        channel.kept.map (·.served.object) = some object)
      ({ cleared with channels := cleared.channels.insert name channel },
        { run.2 with
          opened := run.2.opened + 1
          channels := run.2.channels.insert name (run.2.opened, channel.address) }) where
  sameHost := clears.1.trans attended.sameHost
  sameServices := clears.2.1.trans attended.sameServices
  seating := by
    have arrived := attended.seating.arrive (channel.kept.map (·.served.object)) more
      (fun kept => by
        obtain ⟨hosting, same, rfl⟩ := Option.map_eq_some_iff.mp kept
        exact fresh same)
    exact (arrived.of_instances_eq clears.2.2.1).rename _
  first sits := .inl (attended.first sits)
  channels := by
    intro other found' found
    dsimp only at found ⊢
    rw [Keyed.get?_insert] at found ⊢
    by_cases same : name = other
    · rw [if_pos same] at found ⊢
      obtain rfl := Option.some.inj found
      refine ⟨run.2.opened, rfl, fun kept => .inr ⟨rfl, ?_⟩⟩
      rw [kept, Option.map_some]
    · rw [if_neg same] at found ⊢
      rw [clears.2.2.2 other same] at found
      obtain ⟨number, numbered, keeps⟩ := attended.channels found
      exact ⟨number, numbered, fun kept => .inl (keeps kept)⟩

/-- Every command keeps the record and the switchboard together. -/
theorem Attended.attend (attended : Attended spec services host seat run)
    (counting : spec.IsCounting services host.registry)
    (opens : Host.Opened services spec.settings.host.defaultMode spec.endpoints host.endpoints
      opening)
    (command : Switchboard.Command) :
    ∃ seat, Attended spec services host seat (Attendance.attend spec run command) := by
  obtain ⟨⟨host', services', channels, state⟩, attendance⟩ := run
  obtain rfl : host' = host := attended.sameHost
  obtain rfl : services' = services := attended.sameServices
  have executes := Switchboard.executes ⟨host', services', channels, state⟩ command
  rw [Attendance.attend]
  dsimp only
  generalize Switchboard.execute ⟨host', services', channels, state⟩ command = result at executes ⊢
  have connected : ∀ address, Connected state.container address
      ((host'.openChannel address).run services' state) :=
    fun address => connected_openChannel counting opens address
  cases executes with
  | unsent | absent =>
    exact ⟨seat, rfl, rfl, attended.seating, attended.first, attended.channels⟩
  | @refused name address failure after connecting =>
    have more := connected address
    rw [connecting] at more
    exact ⟨seat, rfl, rfl, attended.seating.of_isPrefix more, attended.first, attended.channels⟩
  | @opened name address channel after connecting free =>
    have arrives := connected address
    rw [connecting] at arrives
    obtain ⟨rfl, more, fresh⟩ := arrives
    have arrived := attended.connect ⟨host', services', channels, after⟩ name more fresh
      ⟨rfl, rfl, rfl, fun _ _ => rfl⟩
    exact ⟨_, arrived⟩
  | @replaced name address channel former after connecting used =>
    have arrives := connected address
    rw [connecting] at arrives
    obtain ⟨rfl, more, fresh⟩ := arrives
    have closed := Container.instances_closeChannel after.container former
    have others : ∀ other, name ≠ other → (channels.erase name).get? other = channels.get? other :=
      fun other apart => (Keyed.get?_erase _ _ _).trans (if_neg apart)
    have arrived := attended.connect
      ⟨host', services', channels.erase name,
        { after with container := after.container.closeChannel former }⟩ name more fresh
      ⟨rfl, rfl, closed, others⟩
    exact ⟨_, arrived⟩
  | @called name channel message result after found calling =>
    have noted := attended.call counting opens found message
    rw [calling] at noted
    cases result with
    | error failure => exact ⟨seat, rfl, rfl, noted, attended.first, attended.channels⟩
    | ok outcome =>
      obtain ⟨group, named, -, seating⟩ := noted
      refine ⟨seat, rfl, rfl, ?_, attended.first, attended.channels⟩
      simp only [Except.map, Attendance.record, named, Option.toList_some]
      exact seating
  | @closed name channel found =>
    refine ⟨seat, rfl, rfl, ?_, attended.first, ?_⟩
    · exact (attended.seating.of_instances_eq
        (Container.instances_closeChannel _ channel)).rename _
    · intro other kept found'
      have erased : ((channels.erase name).get? other) = some kept := found'
      rw [Keyed.get?_erase] at erased
      split at erased
      · cases erased
      · rename_i apart
        obtain ⟨number, numbered, keeps⟩ := attended.channels erased
        exact ⟨number, (Keyed.get?_erase _ _ _).trans ((if_neg apart).trans numbered), keeps⟩

/-- The record and the switchboard stay together through every run. -/
theorem Attended.foldl_attend (attended : Attended spec services host seat run)
    (counting : spec.IsCounting services host.registry)
    (opens : Host.Opened services spec.settings.host.defaultMode spec.endpoints host.endpoints
      opening)
    (commands : List Switchboard.Command) :
    ∃ seat, Attended spec services host seat (commands.foldl (Attendance.attend spec) run) := by
  induction commands generalizing seat run with
  | nil => exact ⟨seat, attended⟩
  | cons command rest ih =>
    obtain ⟨next, attended⟩ := attended.attend counting opens command
    exact ih attended

/-- At every point of every run a call that succeeds answers one more than the number of successful
calls of its group before it. -/
theorem Host.call_counts {shared : AdapterRegistry Content} {opened : ServiceState Content}
    (unused : state.container.IsUnused) (counting : spec.IsCounting services host.registry)
    (opens : (Host.openWith spec shared).run services state = (.ok host, opened))
    (commands : List Switchboard.Command) (name : String) (message : Message) {outcome : Outcome}
    (served : ((Attendance.after spec services host opened commands).1.execute
      (.call name message)).1 = .ok (.served outcome)) :
    ∃ group,
      (Attendance.after spec services host opened commands).2.group? spec services name =
        some group ∧
      outcome = counted
        (1 + (Attendance.after spec services host opened commands).2.served.count group) := by
  have opens := Host.opened_of_openWith unused (fun endpoint mem => counting.isMade mem) opens
  obtain ⟨seat, attended⟩ := (Attended.start counting opens).foldl_attend counting opens commands
  rw [Attendance.after] at served ⊢
  generalize commands.foldl (Attendance.attend spec) (⟨host, services, .empty, opened⟩, .none) =
    run at attended served ⊢
  obtain ⟨⟨host', services', channels, state⟩, attendance⟩ := run
  obtain rfl : host' = host := attended.sameHost
  obtain rfl : services' = services := attended.sameServices
  simp only [Switchboard.execute] at served
  cases found : channels.get? name with
  | none => simp [found] at served
  | some channel =>
    have noted : Noted spec services' seat attendance name
        ((host'.call channel message).run services' state) :=
      attended.call counting opens found message
    simp only [found, Switchboard.serve] at served
    cases ended : (host'.call channel message).run services' state with
    | mk result after =>
      rw [ended] at noted served
      cases result with
      | error failure => cases served
      | ok answer =>
        obtain ⟨group, named, counts, -⟩ := noted
        obtain rfl := Switchboard.Answer.served.inj (Except.ok.inj served)
        exact ⟨group, named, by rw [counts, Nat.add_comm]⟩

end

namespace Tally

/-- A service whose instances count. -/
def service : ServiceKey := ⟨"Tally", none⟩

/-- One instance is shared by all that ask the container itself. -/
def services : Services Content :=
  Services.empty.add service .scoped (.factory (.build "Tally" (.counter 0)))

/-- The adapters of the counting contract. -/
def registry : AdapterRegistry Content := .ofEntries Sample.Counting.visits.entries

/-- An endpoint of the service. -/
def endpoint (address : String) (binding : TransportBinding) : EndpointSpec Content :=
  ⟨address, Sample.Counting.visits, service, none, binding⟩

/-- The service at two addresses. -/
def spec : HostSpec Content :=
  ⟨.standard, none, [endpoint "tcp" .netTcp, endpoint "http" .basicHttp]⟩

/-- What opening the host comes to. -/
def opening : Except Failure (Host Content) × ServiceState Content :=
  (Host.openWith spec registry).run services (.initial .empty)

/-- The open host. -/
def host : Host Content := opening.1.toOption.getD ⟨.empty, .empty⟩

/-- A call of the counting operation. -/
def visit : Message := ⟨"visit", [], .empty⟩

/-- A channel to each endpoint, and a call through the first. -/
def commands : List Switchboard.Command :=
  [.openChannel "a" "tcp", .openChannel "b" "http", .call "a" visit]

theorem openWith_spec :
    (Host.openWith spec registry).run services (.initial .empty) = (.ok host, opening.2) := by
  have succeeded : opening.1.isOk = true := by decide +kernel
  exact eq_of_isOk _ succeeded

theorem isCounting_spec : spec.IsCounting services host.registry where
  factories mem := by
    have same : ∀ described ∈ spec.endpoints, described.service = service := by
      simp [spec, endpoint]
    rw [same _ mem]
    refine ⟨.scoped, .build "Tally" (.counter 0), ?_, ?_⟩
    · rw [services, Services.add, Services.get?, Keyed.get?_insert, if_pos rfl]
    intro typeName content builds
    cases builds
    rfl
  operations := by
    intro described signature adapter _ _ looked
    have counts : adapter ∈ Sample.Counting.visits.adapters := by
      rw [Host.registry_of_openWith openWith_spec] at looked
      obtain ⟨entry, listed, rfl⟩ := Registry.mem_of_lookup_ofEntries looked
      obtain ⟨source, mem, rfl⟩ := List.mem_map.mp listed
      exact mem
    exact ⟨_, _, _, counts⟩

/-- What a command answers, if it is a call that succeeds. -/
def outcome? : Except Failure Switchboard.Answer → Option Outcome
  | .ok (.served outcome) => some outcome
  | _ => none

theorem eq_of_outcome? {answer : Except Failure Switchboard.Answer} {outcome : Outcome}
    (succeeded : outcome? answer = some outcome) : answer = .ok (.served outcome) := by
  match answer, succeeded with
  | .ok (.served _), same => rw [Option.some.inj same]

theorem execute_visit :
    ((Attendance.after spec services host opening.2 commands).1.execute (.call "b" visit)).1 =
      .ok (.served (counted 2)) :=
  eq_of_outcome? (by decide +kernel)

end Tally

/-- The second call is the second one of the service, though the first came through another
endpoint. -/
theorem Host.call_counts_tally :
    (Container.empty : Container Content).IsUnused ∧
      Tally.spec.IsCounting Tally.services Tally.host.registry ∧
      (Host.openWith Tally.spec Tally.registry).run Tally.services (.initial .empty) =
        (.ok Tally.host, Tally.opening.2) ∧
      ((Attendance.after Tally.spec Tally.services Tally.host Tally.opening.2
        Tally.commands).1.execute (.call "b" Tally.visit)).1 = .ok (.served (counted 2)) ∧
      ∃ group,
        (Attendance.after Tally.spec Tally.services Tally.host Tally.opening.2
          Tally.commands).2.group? Tally.spec Tally.services "b" = some group ∧
        counted 2 = counted (1 + (Attendance.after Tally.spec Tally.services Tally.host
          Tally.opening.2 Tally.commands).2.served.count group) :=
  ⟨⟨rfl, rfl, rfl⟩, Tally.isCounting_spec, Tally.openWith_spec, Tally.execute_visit,
    Host.call_counts ⟨rfl, rfl, rfl⟩ Tally.isCounting_spec Tally.openWith_spec Tally.commands "b"
      Tally.visit Tally.execute_visit⟩

end ServiceDispatch
