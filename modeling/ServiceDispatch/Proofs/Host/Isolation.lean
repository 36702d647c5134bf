import ServiceDispatch.Proofs.Host.Course

/-!
# Isolation of scoped services

Whatever callers do to an opened host, instances of a scoped service that are injected into calls
are shared within a call and, where an endpoint has an instance for each session, among the calls
through one channel, but no further. Elsewhere an instance is built for its call and let go with it.
Activated instances obtain the same ones as their calls do, except for one that serves all calls,
which obtains what the container itself shares.
-/

namespace ServiceDispatch

open Container (Moves Tracks Loose)

section

variable {σ : Type} {services : Services σ}

section

variable {registry : AdapterRegistry σ} {default : InstanceMode} {before after : ServiceState σ}

/-- The instance that serves all calls is activated when its endpoint is opened. -/
theorem EndpointSpec.activated_of_openWith {spec : EndpointSpec σ} {endpoint : Endpoint σ}
    (opened : (spec.openWith registry default).run services before = (.ok endpoint, after))
    (mode : endpoint.mode = .single) :
    ∃ hosting middle, endpoint.single = some hosting ∧
      (InstanceContext.activate .single endpoint.activator).run services before =
        (.ok hosting, middle) ∧
      Moves services middle.container after.container := by
  obtain ⟨lifetime, single, middle, event, -, opening, rfl, rfl⟩ := run_openWith_ok opened
  obtain ⟨-, object, found, answered, rfl, rfl⟩ | ⟨other, -⟩ := run_openSingle_ok opening
  · refine ⟨_, _, rfl, ?_, (Moves.refl _).report event⟩
    have start : InstanceContext.begin .single before.container = (.root, before.container) := rfl
    simp only [activator, InstanceContext.run_activate, start, answered]
  · exact absurd mode other

theorem Host.OpensAll.moves {specs : List (EndpointSpec σ)}
    {opened final : Keyed String (Endpoint σ)}
    (opens : OpensAll services registry default specs opened before final after) :
    Moves services before.container after.container :=
  opens.induction (P := Moves services before.container) (fun moves => moves.relog)
    (fun moves steps => moves.trans steps.moves) (Moves.refl _)

theorem Host.OpensAll.activated {specs : List (EndpointSpec σ)}
    {opened final : Keyed String (Endpoint σ)}
    (opens : OpensAll services registry default specs opened before final after)
    {address : String} {endpoint : Endpoint σ} (found : final.get? address = some endpoint)
    (mode : endpoint.mode = .single) :
    opened.get? address = some endpoint ∨
      ∃ start hosting middle, endpoint.single = some hosting ∧
        (InstanceContext.activate .single endpoint.activator).run services start =
          (.ok hosting, middle) ∧
        Moves services middle.container after.container := by
  induction opens with
  | nil => exact .inl found
  | @cons spec rest opened final before middle after endpoint' opening free others ih =>
    obtain former | activated := ih found
    · rw [Keyed.get?_insert] at former
      split at former
      · obtain rfl := Option.some.inj former
        obtain ⟨hosting, last, single, activation, moves⟩ :=
          EndpointSpec.activated_of_openWith opening mode
        exact .inr ⟨before, hosting, last, single, activation, moves.trans others.moves⟩
      · exact .inl former
    · exact .inr activated

/-- The instance that serves all calls of an endpoint was activated before the host was open. -/
theorem Host.activated_of_openWith {spec : HostSpec σ} {shared : AdapterRegistry σ}
    {host : Host σ} (succeeded : (openWith spec shared).run services before = (.ok host, after))
    {address : String} {endpoint : Endpoint σ} (found : host.endpoint? address = some endpoint)
    (mode : endpoint.mode = .single) :
    ∃ start hosting middle, endpoint.single = some hosting ∧
      (InstanceContext.activate .single endpoint.activator).run services start =
        (.ok hosting, middle) ∧
      Moves services middle.container after.container := by
  obtain ⟨first, last, log, log', -, opening, finished, -⟩ := openWith_ok succeeded
  obtain former | ⟨start, hosting, middle, single, activation, moves⟩ :=
    (opensAll_of_openEndpoints opening).activated found mode
  · cases former
  · rw [finished]
    exact ⟨start, hosting, middle, single, activation, moves.relog⟩

/-- The instance that a channel keeps was activated when the channel was opened. -/
theorem Host.Connects.activated {host : Host σ} {address : String} {channel : Channel}
    (connects : host.Connects services address before (.ok channel, after))
    {hosting : InstanceContext} (kept : channel.kept = some hosting) :
    ∃ endpoint middle, host.endpoint? address = some endpoint ∧
      (InstanceContext.activate .perSession endpoint.activator).run services before =
        (.ok hosting, middle) ∧
      Moves services middle.container after.container := by
  cases connects with
  | plain => cases kept
  | manned session sessions found mode activation =>
    obtain rfl := Option.some.inj kept
    exact ⟨_, _, found, activation, (Moves.refl _).report _⟩

end

namespace Course

/-- A command of a course that sends a message through an open channel. -/
structure Call (course : Course σ) where
  /-- The place of the command. -/
  place : Nat
  /-- The name of the channel. -/
  name : String
  /-- The message. -/
  message : Message
  /-- The channel. -/
  channel : Channel
  /-- The number of the channel. -/
  number : Nat
  /-- What is described for the address of the channel. -/
  described : EndpointSpec σ
  /-- The endpoint there. -/
  endpoint : Endpoint σ
  /-- The command sends the message. -/
  asks : course.commands[place]? = some (.call name message)
  /-- The channel is open. -/
  found : (course.board place).channels.get? name = some channel
  /-- It is recorded with its number. -/
  numbered : (course.attendance place).channels.get? name = some (number, channel.address)
  /-- It leads to the endpoint. -/
  leads : channel.LeadsTo course.spec course.services course.host described endpoint

variable {course : Course σ}

/-- Every message that is sent through an open channel makes a call. -/
theorem exists_call {place : Nat} {name : String} {message : Message} {channel : Channel}
    (asks : course.commands[place]? = some (.call name message))
    (found : (course.board place).channels.get? name = some channel) :
    ∃ call : course.Call, call.place = place ∧ call.name = name ∧ call.message = message := by
  obtain ⟨origin, -, -, numbered⟩ := course.opener found
  obtain ⟨described, endpoint, leads⟩ := (course.uses place).leads found
  exact ⟨⟨place, name, message, channel, _, described, endpoint, asks, found, numbered, leads⟩,
    rfl, rfl, rfl⟩

namespace Call

variable {call call' : course.Call} {key : ServiceKey} {object object' : InstanceId}

/-- A call injects an instance for a key. -/
def Injects (call : course.Call) (key : ServiceKey) (object : InstanceId) : Prop :=
  course.host.Injects course.services course.wrapper? call.channel call.message
    (course.board call.place).state key object

/-- The scope from which a call injects: that of its channel, or the first one that it opens. -/
def scope (call : course.Call) : ScopeId :=
  call.channel.scope?.getD (course.container call.place).nextScope

theorem scope_of_ne_perSession (mode : call.endpoint.mode ≠ .perSession) :
    call.channel.scope? = none ∧ call.scope = (course.container call.place).nextScope := by
  have bare : call.channel.scope? = none := by rw [Channel.scope?, call.leads.bare mode]; rfl
  exact ⟨bare, by rw [scope, bare]; rfl⟩

theorem scope_of_perSession (mode : call.endpoint.mode = .perSession) :
    call.channel.scope? = some call.scope := by
  obtain ⟨id, keeps⟩ := Option.isSome_iff_exists.mp (call.leads.scope?_isSome.mpr mode)
  rw [scope, keeps]
  rfl

/-- The scope of a channel is open. -/
theorem keeps (call : course.Call) {id : ScopeId} (scope : call.channel.scope? = some id) :
    (course.container call.place).openness[id.index]? = some true :=
  ((course.balance call.place).exactly id).mpr ⟨call.name, call.channel, call.found, scope⟩

/-- What is left once the call has returned. -/
theorem next (call : course.Call) :
    (course.board (call.place + 1)).channels = (course.board call.place).channels ∧
      course.container (call.place + 1) =
        ((course.host.call call.channel call.message).run course.services
          (course.board call.place).state).2.container := by
  obtain ⟨result, executes, next, -⟩ := executes call.asks
  rw [container, next]
  have found := call.found
  cases executes with
  | unsent free =>
    rw [free] at found
    cases found
  | called here calling =>
    obtain rfl := Option.some.inj (here.symm.trans found)
    rw [(course.uses call.place).sameHost, (course.uses call.place).sameServices] at calling
    rw [calling]
    exact ⟨rfl, rfl⟩

/-- The channel was opened by the command that gave it its number. -/
theorem opens (call : course.Call) :
    ∃ origin < call.place, course.Opens origin call.channel ∧
      (course.attendance origin).opened = call.number := by
  obtain ⟨origin, earlier, opens, numbered⟩ := course.opener call.found
  have same := Option.some.inj (numbered.symm.trans call.numbered)
  exact ⟨origin, earlier, opens, (Prod.mk.inj same).1⟩

/-- Calls have one channel if their channels have one number. -/
theorem channel_eq (same : call.number = call'.number) : call.channel = call'.channel := by
  obtain ⟨origin, -, opens, numbered⟩ := call.opens
  obtain ⟨origin', -, opens', numbered'⟩ := call'.opens
  obtain rfl := opens.eq_of_number opens' (by rw [numbered, numbered', same])
  exact opens.unique opens'

/-- So they have one endpoint. -/
theorem endpoint_eq (same : call.number = call'.number) : call.endpoint = call'.endpoint := by
  have found := call.leads.found
  rw [channel_eq same, call'.leads.found] at found
  exact (Option.some.inj found).symm

/-- A scope that a call opens has been released when the call has returned. -/
theorem closed (call : course.Call) (mode : call.endpoint.mode ≠ .perSession)
    (there : call.scope.index < (course.container (call.place + 1)).openness.length) :
    (course.container (call.place + 1)).openness[call.scope.index]? = some false := by
  rw [List.getElem?_eq_getElem there]
  cases value : (course.container (call.place + 1)).openness[call.scope.index] with
  | false => rfl
  | true =>
    -- no channel has it, since no channel is opened by a call
    have isOpen : (course.container (call.place + 1)).openness[call.scope.index]? = some true := by
      rw [List.getElem?_eq_getElem there, value]
    obtain ⟨name, channel, found, holds⟩ :=
      ((course.balance (call.place + 1)).exactly call.scope).mp isOpen
    rw [call.next.1] at found
    have former :=
      ((course.balance call.place).exactly call.scope).mpr ⟨name, channel, found, holds⟩
    rw [(scope_of_ne_perSession mode).2, Container.nextScope_index, List.getElem?_length] at former
    cases former

/-- A call that succeeds injects an instance for each binding of its wrapper to a service that has
to be there, if its adapter tells failures from values. -/
theorem injects_of_isOk (call : course.Call)
    (succeeded : ((course.board call.place).execute (.call call.name call.message)).1.isOk = true)
    {signature : Signature} {wrapper : Wrapper σ}
    (chosen : (call.endpoint.operations.find? fun signature =>
      signature.method = call.message.action) = some signature)
    {adapter : Adapter σ} (looked : course.host.registry.lookup signature.key.text = .ok adapter)
    (surfaces : adapter.plan.surfaces = true)
    (wraps : course.wrapper? signature.key.text = some wrapper) {place : Nat}
    {injected : Injected TargetType} (asks : wrapper.plan.injected[place]? = some injected)
    (named : injected.key? = some key) (required : injected.isOptional = false) :
    ∃ object, call.Injects key object := by
  rw [Switchboard.execute, call.found] at succeeded
  dsimp only [Switchboard.serve] at succeeded
  rw [(course.uses call.place).sameHost, (course.uses call.place).sameServices] at succeeded
  cases calling : (course.host.call call.channel call.message).run course.services
      (course.board call.place).state with
  | mk result after =>
    rw [calling] at succeeded
    cases result with
    | error failure => cases succeeded
    | ok outcome =>
      exact Host.Injects.of_ok course.wired calling call.leads.found chosen looked surfaces wraps
        asks named required

section

variable {recipe : Recipe σ}
  (registered : course.services.get? key = some ⟨.scoped, .factory recipe⟩)

include registered

/-- When an instance is injected, it is shared by an open scope. -/
theorem Injects.passes (injects : call.Injects key object) {hosting : InstanceContext}
    {owned : Bool} {middle : ServiceState σ}
    (staffed : call.endpoint.Staffs course.services call.channel (course.board call.place).state
      hosting owned middle) :
    ∃ point, Moves course.services middle.container point ∧
      point.openness[call.scope.index]? = some true ∧
      (point.cache (.session (.scope call.scope))).get? key = some object ∧
      Moves course.services point (course.container (call.place + 1)) := by
  rw [call.next.2]
  exact Host.Injects.passes course.wired injects registered call.leads call.keeps staffed

/-- The same from the beginning of the call on. -/
theorem Injects.point (injects : call.Injects key object) :
    ∃ point, Moves course.services (course.container call.place) point ∧
      point.openness[call.scope.index]? = some true ∧
      (point.cache (.session (.scope call.scope))).get? key = some object ∧
      Moves course.services point (course.container (call.place + 1)) := by
  obtain ⟨hosting, owned, middle, staffed⟩ := injects.staffed call.leads.found
  obtain ⟨point, earlier, rest⟩ := injects.passes registered staffed
  exact ⟨point, (staffed.moves call.leads.describes).trans earlier, rest⟩

/-- An injected instance can be followed from its call on. -/
theorem Injects.tracks (injects : call.Injects key object) {later : Nat}
    (after : call.place < later) :
    Tracks course.services (course.container later) call.scope key object := by
  have made : course.services.IsMade key := ⟨_, _, registered⟩
  obtain ⟨point, earlier, isOpen, held, rest⟩ := injects.point registered
  have orderly := earlier.orderly (course.orderly call.place)
  exact (rest.trans (course.moves after)).tracks orderly made
    (.shared (orderly.below made held) isOpen held)

/-- Of two calls, one after the other, one instance is injected exactly if they inject from one
scope. -/
theorem Injects.eq_iff_scope (injects : call.Injects key object)
    (injects' : call'.Injects key object') (before : call.place < call'.place) :
    object = object' ↔ call.scope = call'.scope := by
  have made : course.services.IsMade key := ⟨_, _, registered⟩
  obtain ⟨point, earlier, isOpen, held, -⟩ := injects'.point registered
  have orderly := course.orderly call'.place
  have tracks := earlier.tracks orderly made (injects.tracks registered before)
  constructor
  · rintro rfl
    have same := tracks.eq_of_held (earlier.orderly orderly) made held
    simpa using same.symm
  · intro same
    rw [← same] at isOpen held
    exact Option.some.inj ((tracks.held isOpen).symm.trans held)

/-- They do so exactly if the calls go through one channel that has a scope. -/
theorem Injects.scope_eq_iff (injects : call.Injects key object)
    (injects' : call'.Injects key object') (before : call.place < call'.place) :
    call.scope = call'.scope ↔
      call.endpoint.mode = .perSession ∧ call.number = call'.number := by
  constructor
  · intro same
    obtain ⟨point, -, isOpen, -, rest⟩ := injects.point registered
    obtain ⟨point', earlier', isOpen', -, -⟩ := injects'.point registered
    have there : call.scope.index < point.openness.length :=
      (List.getElem?_eq_some_iff.mp isOpen).1
    by_cases mode : call.endpoint.mode = .perSession
    · refine ⟨mode, ?_⟩
      have scope := scope_of_perSession mode
      by_cases mode' : call'.endpoint.mode = .perSession
      · obtain ⟨origin, -, opens, numbered⟩ := call.opens
        obtain ⟨origin', -, opens', numbered'⟩ := call'.opens
        obtain rfl := opens.eq_of_scope opens' scope (same ▸ scope_of_perSession mode')
        exact numbered.symm.trans numbered'
      · -- the second call opens its scope, so it is not one that was open before
        have inside := (List.getElem?_eq_some_iff.mp (call.keeps scope)).1
        have grown := (course.moves (Nat.le_of_lt before)).later.scopes
        rw [same, (scope_of_ne_perSession mode').2, Container.nextScope_index] at inside
        omega
    · -- the scope of the first call has been released before the second one
      have closed := call.closed mode (Nat.lt_of_lt_of_le there rest.later.scopes)
      have still := ((course.moves before).trans earlier').later.closed closed
      rw [same, isOpen'] at still
      cases still
  · rintro ⟨mode, same⟩
    rw [scope, scope, ← channel_eq same, scope_of_perSession mode]
    rfl

/-- An instance that is obtained in an open scope from which a call injects is the one that the
call injects. -/
theorem Injects.eq_of_held (injects : call.Injects key object) {hosting : InstanceContext}
    {owned : Bool} {middle : ServiceState σ}
    (staffed : call.endpoint.Staffs course.services call.channel (course.board call.place).state
      hosting owned middle)
    {former : Container σ} (orderly : former.Orderly course.services)
    (moves : Moves course.services former middle.container)
    (isOpen : former.openness[call.scope.index]? = some true)
    (held : (former.cache (.session (.scope call.scope))).get? key = some object') :
    object' = object := by
  have made : course.services.IsMade key := ⟨_, _, registered⟩
  obtain ⟨point, earlier, still, here, -⟩ := injects.passes registered staffed
  have tracks := (moves.trans earlier).tracks orderly made
    (.shared (orderly.below made held) isOpen held)
  exact Option.some.inj ((tracks.held still).symm.trans here)

/-- All injections within one call give one instance. -/
theorem Injects.unique (injects : call.Injects key object) (injects' : call'.Injects key object')
    (same : call.place = call'.place) : object = object' := by
  obtain ⟨place, name, message, channel, number, described, endpoint, asks, found, numbered,
    leads⟩ := call
  obtain ⟨place', name', message', channel', number', described', endpoint', asks', found',
    numbered', leads'⟩ := call'
  obtain rfl : place = place' := same
  obtain ⟨rfl, rfl⟩ := Switchboard.Command.call.inj (Option.some.inj (asks.symm.trans asks'))
  obtain rfl := Option.some.inj (found.symm.trans found')
  exact Host.Injects.unique injects injects' registered leads fun scope =>
    ((course.balance place).exactly _).mpr ⟨name, channel, found, scope⟩

/-- Two injected instances are one exactly if they are injected into one call, or into calls through
one channel to an endpoint with an instance for each session. -/
theorem Injects.eq_iff (injects : call.Injects key object)
    (injects' : call'.Injects key object') :
    object = object' ↔
      call.place = call'.place ∨
        call.endpoint.mode = .perSession ∧ call.number = call'.number := by
  obtain before | here | after := Nat.lt_trichotomy call.place call'.place
  · rw [injects.eq_iff_scope registered injects' before,
      injects.scope_eq_iff registered injects' before]
    exact (or_iff_right (Nat.ne_of_lt before)).symm
  · exact ⟨fun _ => .inl here, fun _ => injects.unique registered injects' here⟩
  · rw [eq_comm, injects'.eq_iff_scope registered injects after,
      injects'.scope_eq_iff registered injects after, or_iff_right (Nat.ne_of_gt after)]
    constructor
    · rintro ⟨mode, same⟩
      exact ⟨endpoint_eq same ▸ mode, same.symm⟩
    · rintro ⟨mode, same⟩
      exact ⟨endpoint_eq same ▸ mode, same.symm⟩

/-- Where there is no instance for each session, the injected instance did not exist when the call
was made. -/
theorem Injects.fresh (injects : call.Injects key object)
    (mode : call.endpoint.mode ≠ .perSession) :
    (course.container call.place).instances.length ≤ object.index := by
  have made : course.services.IsMade key := ⟨_, _, registered⟩
  by_contra there
  obtain ⟨point, earlier, -, held, -⟩ := injects.point registered
  have former := earlier.former (Nat.lt_of_not_le there) made held
  -- there was no such scope
  rw [(scope_of_ne_perSession mode).2, Container.cache_nextScope] at former
  cases former

/-- Neither is it anywhere once the call has returned. -/
theorem Injects.dropped (injects : call.Injects key object)
    (mode : call.endpoint.mode ≠ .perSession) {later : Nat} (after : call.place < later) :
    (course.container later).openness[call.scope.index]? = some false ∧
      Loose course.services (course.container later) object := by
  obtain ⟨point, -, isOpen, -, rest⟩ := injects.point registered
  have there : call.scope.index < point.openness.length := (List.getElem?_eq_some_iff.mp isOpen).1
  have closed := call.closed mode (Nat.lt_of_lt_of_le there rest.later.scopes)
  have still := (course.moves after).later.closed closed
  exact ⟨still, (injects.tracks registered after).loose still⟩

/-- The container itself never shares an injected instance. -/
theorem Injects.not_root (injects : call.Injects key object) (place : Nat) :
    ((course.container place).cache (.session .root)).get? key ≠ some object := by
  intro held
  have made : course.services.IsMade key := ⟨_, _, registered⟩
  have later := (course.moves (Nat.le_max_left place (call.place + 1))).later.root held
  have tracks := injects.tracks registered (Nat.le_max_right place (call.place + 1))
  cases tracks.eq_of_held (course.orderly _) made later

end

end Call

/-- The instance that serves a call was activated between two states: before the host was open, by
the command that opened the channel, or for the call alone. -/
inductive Call.Activated (call : course.Call) :
    InstanceContext → ServiceState σ → ServiceState σ → Prop where
  /-- One instance serves all calls. -/
  | single {start middle : ServiceState σ} {hosting : InstanceContext}
      (mode : call.endpoint.mode = .single) (kept : call.endpoint.single = some hosting)
      (activation : (InstanceContext.activate .single call.endpoint.activator).run course.services
        start = (.ok hosting, middle))
      (onwards : Moves course.services middle.container course.opened.container) :
      Activated call hosting start middle
  /-- The channel keeps an instance. -/
  | perSession {origin : Nat} {middle : ServiceState σ} {hosting : InstanceContext}
      (mode : call.endpoint.mode = .perSession) (kept : call.channel.kept = some hosting)
      (earlier : origin < call.place) (opens : course.Opens origin call.channel)
      (numbered : (course.attendance origin).opened = call.number)
      (activation : (InstanceContext.activate .perSession call.endpoint.activator).run
        course.services (course.board origin).state = (.ok hosting, middle))
      (onwards : Moves course.services middle.container (course.container (origin + 1))) :
      Activated call hosting (course.board origin).state middle
  /-- An instance serves the call alone. -/
  | perCall {middle : ServiceState σ} {hosting : InstanceContext}
      (mode : call.endpoint.mode = .perCall)
      (activation : (InstanceContext.activate .perCall call.endpoint.activator).run
        course.services (course.board call.place).state = (.ok hosting, middle)) :
      Activated call hosting (course.board call.place).state middle

namespace Call

variable {call : course.Call} {hosting : InstanceContext} {before after : ServiceState σ}

/-- The instance that serves a call was activated in one of these ways. -/
theorem exists_activated {owned : Bool} {middle : ServiceState σ}
    (staffed : call.endpoint.Staffs course.services call.channel (course.board call.place).state
      hosting owned middle) :
    ∃ before after, call.Activated hosting before after := by
  cases staffed with
  | activated mode activation => exact ⟨_, _, .perCall mode activation⟩
  | single mode single =>
    obtain ⟨start, hosting', middle, kept, activation, onwards⟩ :=
      Host.activated_of_openWith course.opening call.leads.found mode
    obtain rfl := Option.some.inj (kept.symm.trans single)
    exact ⟨_, _, .single mode kept activation onwards⟩
  | kept mode kept =>
    obtain ⟨origin, earlier, opens, numbered⟩ := call.opens
    obtain ⟨-, after, connects, onwards⟩ := opens.next
    have connected := course.host.connects course.services call.channel.address
      (course.board origin).state
    rw [connects] at connected
    obtain ⟨endpoint, middle, found, activation, rest⟩ := connected.activated kept
    obtain rfl := Option.some.inj (call.leads.found.symm.trans found)
    exact ⟨_, _, .perSession mode kept earlier opens numbered activation (rest.trans onwards)⟩

/-- Unless one instance serves all calls, the call injects from the session of its instance, which
has been open since the instance was activated. -/
theorem Activated.isOpen (activated : call.Activated hosting before after)
    (shared : call.endpoint.mode ≠ .single) :
    hosting.session = .scope call.scope ∧ hosting.session.IsOpen after.container := by
  cases activated with
  | single mode => exact absurd mode shared
  | perCall mode activation =>
    rw [call.leads.describes.activator] at activation
    obtain ⟨session, opens⟩ := InstanceContext.opens_of_activate (by decide) activation
    rw [session, (scope_of_ne_perSession (by simp [mode])).2]
    exact ⟨rfl, opens.getElem?_nextScope⟩
  | perSession mode kept earlier opens numbered activation =>
    rw [call.leads.describes.activator] at activation
    obtain ⟨session, opened⟩ := InstanceContext.opens_of_activate (by decide) activation
    have scope := scope_of_perSession mode
    rw [Channel.scope?, kept, Option.bind_some, session] at scope
    rw [session, ← Option.some.inj scope]
    exact ⟨rfl, opened.getElem?_nextScope⟩

/-- From then on there are moves to the call. -/
theorem Activated.moves (activated : call.Activated hosting before after) {owned : Bool}
    {hosting' : InstanceContext} {middle : ServiceState σ}
    (staffed : call.endpoint.Staffs course.services call.channel (course.board call.place).state
      hosting' owned middle)
    (shared : call.endpoint.mode ≠ .single) :
    after.container.Orderly course.services ∧
      Moves course.services after.container middle.container := by
  have arrives := staffed.moves call.leads.describes
  cases activated with
  | single mode => exact absurd mode shared
  | perCall mode activation =>
    obtain ⟨-, -, rfl⟩ := staffed.unique (.activated mode activation)
    exact ⟨arrives.orderly (course.orderly _), Moves.refl _⟩
  | perSession mode kept earlier opens numbered activation onwards =>
    rw [call.leads.describes.activator] at activation
    have activates := InstanceContext.moves_activate activation
    exact ⟨activates.orderly (course.orderly _),
      (onwards.trans (course.moves earlier)).trans arrives⟩

/-- What the instance that serves a call has obtained when it was activated is what the call
injects, unless the instance serves all calls: then it is something else. -/
theorem Injects.obtained_iff {key : ServiceKey} {recipe : Recipe σ} {object other : InstanceId}
    (injects : call.Injects key object)
    (registered : course.services.get? key = some ⟨.scoped, .factory recipe⟩)
    (activated : call.Activated hosting before after)
    (obtains : InstanceContext.Obtains course.services call.described.service hosting
      before.container after.container key other) :
    other = object ↔ call.endpoint.mode ≠ .single := by
  have held : (after.container.cache (.session hosting.session)).get? key = some other := by
    cases activated with
    | single _ _ activation | perSession _ _ _ _ _ activation | perCall _ activation =>
      rw [call.leads.describes.activator] at activation
      exact obtains.held registered activation
  by_cases mode : call.endpoint.mode = .single
  · refine iff_of_false ?_ (not_not_intro mode)
    cases activated with
    | perCall mode' | perSession mode' => simp [mode] at mode'
    | single mode kept activation onwards =>
      -- the container itself shares the one, and never the other
      rw [call.leads.describes.activator] at activation
      obtain ⟨served, rfl⟩ := InstanceContext.activate_ok activation
      rintro rfl
      exact injects.not_root registered 0 (onwards.later.root held)
  · refine iff_of_true ?_ mode
    obtain ⟨hosting', owned, middle, staffed⟩ := injects.staffed call.leads.found
    obtain ⟨session, isOpen⟩ := activated.isOpen mode
    obtain ⟨orderly, moves⟩ := activated.moves staffed mode
    rw [session] at held isOpen
    exact injects.eq_of_held registered staffed orderly moves isOpen held

end Call

/-- Instances of a key that are injected into calls are shared and isolated as the modes of the
endpoints demand. -/
structure Isolates (course : Course σ) (key : ServiceKey) : Prop where
  /-- A call that succeeds injects one for each binding to the key, if the service has to be there.
  That a call succeeds can be told by an adapter that surfaces errors; any other answers with them
  as with values. -/
  injected : ∀ {call : course.Call} {signature : Signature} {adapter : Adapter σ}
      {wrapper : Wrapper σ} {place : Nat} {injected : Injected TargetType},
    ((course.board call.place).execute (.call call.name call.message)).1.isOk = true →
    (call.endpoint.operations.find? fun signature => signature.method = call.message.action) =
      some signature →
    course.host.registry.lookup signature.key.text = .ok adapter → adapter.plan.surfaces = true →
    course.wrapper? signature.key.text = some wrapper →
    wrapper.plan.injected[place]? = some injected → injected.key? = some key →
    injected.isOptional = false → ∃ object, call.Injects key object
  /-- Two of them are one instance exactly if they are injected into one call, or into calls through
  one channel to an endpoint with an instance for each session. -/
  shared : ∀ {call call' : course.Call} {object object'}, call.Injects key object →
    call'.Injects key object' →
    (object = object' ↔
      call.place = call'.place ∨ call.endpoint.mode = .perSession ∧ call.number = call'.number)
  /-- At any other endpoint the instance did not exist when the call was made. -/
  fresh : ∀ {call : course.Call} {object}, call.Injects key object →
    call.endpoint.mode ≠ .perSession →
    (course.container call.place).instances.length ≤ object.index
  /-- There it is dropped before the call returns: the scope that shared it has been released, and
  no other cache has it. -/
  dropped : ∀ {call : course.Call} {object}, call.Injects key object →
    call.endpoint.mode ≠ .perSession → ∀ later, call.place < later →
    (course.container later).openness[call.scope.index]? = some false ∧
      Loose course.services (course.container later) object
  /-- The container itself never shares it. -/
  root : ∀ {call : course.Call} {object}, call.Injects key object → ∀ place,
    ((course.container place).cache (.session .root)).get? key ≠ some object
  /-- An instance was activated to serve the call, -/
  served : ∀ {call : course.Call} {object}, call.Injects key object →
    ∃ hosting before after, call.Activated hosting before after
  /-- and if it has obtained an instance of the key then, that is the one that the call injects,
  unless it serves all calls: then it is another one. -/
  obtained : ∀ {call : course.Call} {object other hosting before after},
    call.Injects key object → call.Activated hosting before after →
    InstanceContext.Obtains course.services call.described.service hosting before.container
      after.container key other →
    (other = object ↔ call.endpoint.mode ≠ .single)

/-- In every course, whatever instances of a scoped service are injected are shared and isolated as
they should be. -/
theorem injections_isolated {key : ServiceKey} {recipe : Recipe σ}
    (registered : course.services.get? key = some ⟨.scoped, .factory recipe⟩) :
    course.Isolates key where
  injected succeeded chosen looked surfaces wraps asks named required :=
    Call.injects_of_isOk _ succeeded chosen looked surfaces wraps asks named required
  shared injects injects' := injects.eq_iff registered injects'
  fresh injects mode := injects.fresh registered mode
  dropped injects mode _ after := injects.dropped registered mode after
  root injects place := injects.not_root registered place
  served := by
    intro call object injects
    obtain ⟨hosting, owned, middle, staffed⟩ := injects.staffed call.leads.found
    exact ⟨hosting, Call.exists_activated staffed⟩
  obtained injects activated obtains := injects.obtained_iff registered activated obtains

end Course

end

namespace Greetings

open Sample Sample.Greeter

/-- The wrapper behind the one operation. -/
def wrapper : Wrapper Content :=
  ⟨⟨[given "name" .string, service "clock" clockType none false], false⟩, .own, greet⟩

theorem isWired : host.registry.IsWired services fun _ => some wrapper where
  wraps looked same := by
    obtain rfl := Option.some.inj same
    rw [Host.registry_of_openWith openWith_spec] at looked
    obtain ⟨entry, listed, rfl⟩ := Registry.mem_of_lookup_ofEntries looked
    obtain ⟨source, mem, rfl⟩ := List.mem_map.mp listed
    obtain rfl := List.mem_singleton.mp mem
    rfl
  implementation same object arguments := by
    obtain rfl := Option.some.inj same
    have idle : ∀ state, ((wrapper.implementation object arguments).run services state).2 = state :=
      run_greet object arguments
    refine ⟨fun state => ?_, fun state => ?_⟩
    · rw [idle]
      exact Container.Settles.refl _
    · rw [idle]
      exact Moves.refl _
  method _ absent := by cases absent

/-- Two calls through each channel. -/
def course : Course Content where
  spec := spec
  shared := .ofEntries contract.entries
  services := services
  start := .initial .empty
  host := host
  opened := opening.2
  wrapper? _ := some wrapper
  commands := commands ++ [.call "a" greeting, .call "b" greeting, .call "c" greeting]
  unused := ⟨rfl, rfl, rfl⟩
  opening := openWith_spec
  wired := isWired

theorem get?_clock :
    services.get? clock = some ⟨.scoped, .factory (.build clockType (.clock 7))⟩ := by
  rw [services, Services.add, Services.get?, Keyed.get?_insert, if_pos rfl]

/-- A greeting that succeeds injects a clock. -/
theorem exists_injects {place : Nat} (name : String)
    (asks : course.commands[place]? = some (.call name greeting))
    (used : ((course.board place).channels.get? name).isSome = true)
    (succeeded : ((course.board place).execute (.call name greeting)).1.isOk = true) :
    ∃ (call : course.Call) (object : InstanceId),
      call.place = place ∧ call.Injects clock object := by
  obtain ⟨channel, found⟩ := Option.isSome_iff_exists.mp used
  obtain ⟨call, rfl, rfl, message⟩ := Course.exists_call asks found
  rw [← message] at succeeded
  have described : call.described.contract = contract := by
    have listed : ∀ described ∈ spec.endpoints, described.contract = contract := by simp [spec]
    exact listed _ call.leads.mem
  have chosen : (call.endpoint.operations.find? fun signature =>
      signature.method = call.message.action) = contract.operations.head? := by
    rw [call.leads.describes.operations, described, message]
    rfl
  have surfacing : ∀ signature ∈ contract.operations.head?,
      ((host.registry.lookup signature.key.text).toOption.map (·.plan.surfaces)) = some true := by
    decide +kernel
  have surfaced := surfacing _ rfl
  obtain ⟨adapter, looked, -⟩ | ⟨missing, -⟩ := host.registry.lookup_cases _
  · rw [looked] at surfaced
    have surfaces : adapter.plan.surfaces = true := Option.some.inj surfaced
    obtain ⟨object, injects⟩ := call.injects_of_isOk succeeded chosen looked surfaces rfl
      (show wrapper.plan.injected[0]? = some _ from rfl) rfl rfl
    exact ⟨call, object, rfl, injects⟩
  · rw [missing] at surfaced
    cases surfaced

end Greetings

open Greetings in
/-- There is a call in each of the modes that injects a clock. -/
theorem Course.injections_isolated_greetings :
    Greetings.course.services.get? clock =
        some ⟨.scoped, .factory (.build Sample.Greeter.clockType (.clock 7))⟩ ∧
      (∀ place ∈ [3, 4, 5], ∃ (call : Greetings.course.Call) (object : InstanceId),
        call.place = place ∧ call.Injects clock object) ∧
      Greetings.course.Isolates clock := by
  refine ⟨get?_clock, fun place mem => ?_, injections_isolated get?_clock⟩
  obtain rfl | rfl | rfl : place = 3 ∨ place = 4 ∨ place = 5 := by simpa using mem
  · exact exists_injects "a" rfl (by decide +kernel) (by decide +kernel)
  · exact exists_injects "b" rfl (by decide +kernel) (by decide +kernel)
  · exact exists_injects "c" rfl (by decide +kernel) (by decide +kernel)

open Greetings in
/-- One clock is built for the host, one for the first channel, and one for each of the other four
calls. -/
example :
    (((Greetings.course.container 9).instances.map Instance.typeName).count
      Sample.Greeter.clockType) = 6 := by
  decide +kernel

end ServiceDispatch
