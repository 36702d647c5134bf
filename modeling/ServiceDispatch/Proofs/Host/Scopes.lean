import ServiceDispatch.Proofs.Call.Scopes
import ServiceDispatch.Proofs.Host.Calls
import ServiceDispatch.Proofs.Registry.Ledger
import ServiceDispatch.Sample.Greeter

/-!
# Scopes of opened hosts

No scope leaks and none is released early, throughout every run of an opened host: the open scopes
are those of the open channels that keep an instance, and every other scope that was ever opened has
been released once. Operations release what scopes they open themselves; how they end is open.
-/

namespace ServiceDispatch

section

variable {σ : Type} {services : Services σ} {host : Host σ} {spec : HostSpec σ}

open Container (KeepsScopes Settles Opens ReleasesOnce Reaches)

namespace Container

variable {before after container : Container σ} {held : ScopeId → Prop}

/-- The open scopes are those that are held. -/
def OpenExactly (container : Container σ) (held : ScopeId → Prop) : Prop :=
  ∀ id, container.openness[id.index]? = some true ↔ held id

theorem OpenExactly.settle (exactly : before.OpenExactly held) (settles : Settles before after) :
    after.OpenExactly held :=
  fun id => (settles.open_iff id.index).trans (exactly id)

/-- A scope that is opened is held as well. -/
theorem OpenExactly.grow (exactly : before.OpenExactly held) (opens : Opens before after) :
    after.OpenExactly fun id => held id ∨ before.nextScope = id := by
  intro id
  have latest : before.openness.length = id.index ↔ before.nextScope = id := by
    rw [← nextScope_index]
    exact ⟨congrArg ScopeId.mk, congrArg ScopeId.index⟩
  change _ ↔ held id ∨ before.nextScope = id
  rw [opens.openness, ← exactly id, ← latest]
  grind

/-- A scope that is released is not held any more. -/
theorem OpenExactly.release (exactly : container.OpenExactly held) (gone : ScopeId) :
    (container.releaseScope gone).OpenExactly fun id => held id ∧ gone ≠ id := by
  intro id
  have other : gone.index ≠ id.index ↔ gone ≠ id :=
    not_congr ⟨congrArg ScopeId.mk, congrArg ScopeId.index⟩
  change _ ↔ held id ∧ gone ≠ id
  rw [openness_releaseScope, ← exactly id, ← other]
  grind

end Container

namespace InstanceContext

variable {mode : InstanceMode} {service : ServiceKey} {contract : String}
  {before after : ServiceState σ}

theorem begin_of_ne_single (shared : mode ≠ .single) (container : Container σ) :
    begin mode container = (.scope container.nextScope, container.openScope.2) := by
  cases mode with
  | single => exact absurd rfl shared
  | perCall | perSession => rfl

/-- The scope of an instance stays open. -/
theorem opens_of_activate (shared : mode ≠ .single) {hosting : InstanceContext}
    (activated : (activate mode (.ofService service contract)).run services before =
      (.ok hosting, after)) :
    hosting.session = .scope before.container.nextScope ∧
      Opens before.container after.container := by
  rw [run_activate, begin_of_ne_single shared] at activated
  dsimp only at activated
  have steps : Reaches services (.scope before.container.nextScope) before.container.openScope.2
      ((Resolution.require (.scope before.container.nextScope) service).run services
        before.container.openScope.2).2 := Resolution.reaches_require _ service _
  match answered : (Resolution.require (.scope before.container.nextScope) service).run services
      before.container.openScope.2 with
  | (.error _, _) => simp [answered] at activated
  | (.ok object, found) =>
    rw [answered] at activated steps
    obtain ⟨rfl, rfl⟩ : _ = hosting ∧ _ = after := by simpa using activated
    exact ⟨rfl, ((Opens.openScope _).trans_keeps steps.keepsScopes).trans_keeps
      (KeepsScopes.report _ fun _ => rfl)⟩

/-- The scope is released at once if there is no instance. -/
theorem settles_of_activate (shared : mode ≠ .single) {failure : Failure}
    (failed : (activate mode (.ofService service contract)).run services before =
      (.error failure, after)) :
    Settles before.container after.container := by
  rw [run_activate, begin_of_ne_single shared] at failed
  dsimp only at failed
  have steps : Reaches services (.scope before.container.nextScope) before.container.openScope.2
      ((Resolution.require (.scope before.container.nextScope) service).run services
        before.container.openScope.2).2 := Resolution.reaches_require _ service _
  match answered : (Resolution.require (.scope before.container.nextScope) service).run services
      before.container.openScope.2 with
  | (.ok _, _) => simp [answered] at failed
  | (.error _, missed) =>
    rw [answered] at failed steps
    obtain ⟨-, rfl⟩ := Prod.mk.inj failed
    exact (Opens.openScope _).settles_release steps.keepsScopes.settles

end InstanceContext

namespace Channel

variable {channel : Channel}

/-- The scope that a channel holds open with its instance. -/
def scope? (channel : Channel) : Option ScopeId :=
  channel.kept.bind fun hosting =>
    match hosting.session with
    | .root => none
    | .scope id => some id

/-- A channel without a scope opens and releases nothing when it is closed. -/
theorem keepsScopes_close (bare : channel.scope? = none) (container : Container σ) :
    KeepsScopes container (container.closeChannel channel) := by
  have noted : KeepsScopes container
      (container.report (.channelClosed channel.address channel.session)) :=
    KeepsScopes.report _ fun _ => rfl
  rw [Container.closeChannel]
  cases kept : channel.kept with
  | none => exact noted
  | some hosting =>
    cases session : hosting.session with
    | scope id => simp [scope?, kept, session] at bare
    | root =>
      dsimp only
      rw [Container.releaseHosting, session]
      exact noted.trans (KeepsScopes.report _ fun _ => rfl)

/-- The scope of a channel is released when the channel is closed, and nothing else happens. -/
theorem close_eq {id : ScopeId} (keeps : channel.scope? = some id) (container : Container σ) :
    ∃ noted, KeepsScopes container noted ∧
      container.closeChannel channel = noted.releaseScope id := by
  have first : KeepsScopes container
      (container.report (.channelClosed channel.address channel.session)) :=
    KeepsScopes.report _ fun _ => rfl
  cases kept : channel.kept with
  | none => simp [scope?, kept] at keeps
  | some hosting =>
    cases session : hosting.session with
    | root => simp [scope?, kept, session] at keeps
    | scope id' =>
      obtain rfl : id' = id := by simpa [scope?, kept, session] using keeps
      have second : KeepsScopes
          (container.report (.channelClosed channel.address channel.session))
          ((container.report (.channelClosed channel.address channel.session)).report
            (.instanceReleased hosting.mode hosting.served.contract)) :=
        KeepsScopes.report _ fun _ => rfl
      refine ⟨_, first.trans second, ?_⟩
      rw [Container.closeChannel, kept]
      dsimp only
      rw [Container.releaseHosting, session]
      rfl

/-- A channel that keeps an instance for its session has a scope, and no other channel has. -/
theorem LeadsTo.scope?_isSome {described : EndpointSpec σ} {endpoint : Endpoint σ}
    (leads : channel.LeadsTo spec services host described endpoint) :
    channel.scope?.isSome = true ↔ endpoint.mode = .perSession := by
  by_cases mode : endpoint.mode = .perSession
  · obtain ⟨scope, object, kept⟩ := leads.manned mode
    simp [scope?, kept, mode]
  · simp [scope?, leads.bare mode, mode]

end Channel

/-- What a channel comes to that is opened: it has no scope and nothing was opened, or it has the
scope that was opened for it. -/
theorem Host.Connects.scopes {address : String} {channel : Channel}
    {before after : ServiceState σ}
    (connects : host.Connects services address before (.ok channel, after))
    {described : EndpointSpec σ} {endpoint : Endpoint σ}
    (leads : channel.LeadsTo spec services host described endpoint) :
    channel.scope? = none ∧ KeepsScopes before.container after.container ∨
      channel.scope? = some before.container.nextScope ∧
        Opens before.container after.container := by
  cases connects with
  | plain session sessions found mode => exact .inl ⟨rfl, KeepsScopes.report _ fun _ => rfl⟩
  | @manned endpoint' hosting middle session sessions found mode activation =>
    obtain rfl : endpoint = endpoint' := Option.some.inj (leads.found.symm.trans found)
    rw [leads.describes.activator] at activation
    obtain ⟨scope, opens⟩ := InstanceContext.opens_of_activate (by decide) activation
    refine .inr ⟨?_, opens.trans_keeps (KeepsScopes.report _ fun _ => rfl)⟩
    simp [Channel.scope?, scope]

/-- A channel that cannot be opened leaves no scope open. -/
theorem Host.Connects.settles {address : String} {failure : Failure}
    {before after : ServiceState σ}
    (connects : host.Connects services address before (.error failure, after))
    (activates : ∀ {endpoint}, host.endpoint? address = some endpoint →
      ∃ service contract, endpoint.activator = .ofService service contract) :
    Settles before.container after.container := by
  cases connects with
  | unknown missing => exact Settles.refl _
  | inactive found mode activation =>
    obtain ⟨service, contract, same⟩ := activates found
    rw [same] at activation
    exact InstanceContext.settles_of_activate (by decide) activation

namespace Endpoint.Staffs

variable {channel : Channel} {described : EndpointSpec σ} {endpoint : Endpoint σ}
  {before middle : ServiceState σ} {hosting : InstanceContext} {owned : Bool}

/-- What belongs to a call is released at its end, whatever was done with it. -/
theorem settles_release (staffed : endpoint.Staffs services channel before hosting owned middle)
    (describes : described.Describes services spec.settings.host.defaultMode endpoint)
    (message : Message) {final : Container σ} (settles : Settles middle.container final) :
    Settles before.container
      (final.releaseCall (channel.contextOf message hosting owned)) := by
  cases staffed with
  | kept | single => exact settles
  | activated mode activation =>
    rw [describes.activator] at activation
    obtain ⟨session, opens⟩ := InstanceContext.opens_of_activate (by decide) activation
    have noted : Settles final
        (final.report (.instanceReleased hosting.mode hosting.served.contract)) :=
      (KeepsScopes.report _ fun _ => rfl).settles
    have released := opens.settles_release (settles.trans noted)
    change Settles _ (final.releaseHosting hosting)
    rw [Container.releaseHosting, session]
    exact released

/-- The session of the instance that serves a call is open when the call starts. -/
theorem isOpen (staffed : endpoint.Staffs services channel before hosting owned middle)
    (leads : channel.LeadsTo spec services host described endpoint)
    (keeps : ∀ {id}, channel.scope? = some id →
      before.container.openness[id.index]? = some true) :
    hosting.session.IsOpen middle.container := by
  cases staffed with
  | activated mode activation =>
    rw [leads.describes.activator] at activation
    obtain ⟨session, opens⟩ := InstanceContext.opens_of_activate (by decide) activation
    rw [session]
    exact opens.getElem?_nextScope
  | kept mode kept =>
    obtain ⟨scope, object, here⟩ := leads.manned mode
    obtain rfl := Option.some.inj (kept.symm.trans here)
    exact keeps (by simp [Channel.scope?, kept])
  | single mode single =>
    obtain ⟨object, here⟩ := leads.describes.single mode
    obtain rfl := Option.some.inj (single.symm.trans here)
    trivial

end Endpoint.Staffs

/-- However a call ends, the scopes that were opened for it have been released. -/
theorem Host.Calls.settles {channel : Channel} {message : Message} {before : ServiceState σ}
    {result : Except Failure Outcome × ServiceState σ}
    (calls : host.Calls services channel message before result)
    {described : EndpointSpec σ} {endpoint : Endpoint σ}
    (leads : channel.LeadsTo spec services host described endpoint)
    (discreet : ∀ {key adapter}, host.registry.lookup key = .ok adapter →
      adapter.IsDiscreet services) :
    Settles before.container result.2.container := by
  cases calls with
  | lost | unknown | unkept | unopened => exact Settles.refl _
  | inactive found chosen mode activation =>
    rw [(leads.describes_of_found found).activator] at activation
    exact InstanceContext.settles_of_activate (by decide) activation
  | missed found chosen staffed missing =>
    exact staffed.settles_release (leads.describes_of_found found) message
      (KeepsScopes.report _ fun _ => rfl).settles
  | miscounted found chosen staffed looked differs =>
    exact staffed.settles_release (leads.describes_of_found found) message (Settles.refl _)
  | @invoked endpoint signature adapter hosting owned middle ended found chosen staffed looked
      count invocation =>
    have started : Settles middle.container
        (middle.callStarted (channel.contextOf message hosting owned)).container :=
      (KeepsScopes.report _ fun _ => rfl).settles
    have invoked := (discreet looked).settles_invoke hosting.served (.holding message.arguments)
      (middle.callStarted (channel.contextOf message hosting owned))
    rw [invocation] at invoked
    have released := staffed.settles_release (leads.describes_of_found found) message
      (started.trans invoked)
    obtain ⟨result, after⟩ := ended
    cases result with
    | ok outcome => exact released
    | error failure => exact released.trans (KeepsScopes.report _ fun _ => rfl).settles

/-- The scope that a channel has is released when it is closed. -/
theorem Container.OpenExactly.close {held : ScopeId → Prop} {container : Container σ}
    (exactly : container.OpenExactly held) {channel : Channel}
    (holds : ∀ {id}, channel.scope? = some id → held id) :
    (container.closeChannel channel).OpenExactly (fun id => held id ∧ channel.scope? ≠ some id) ∧
      ReleasesOnce container (container.closeChannel channel) := by
  cases scope : channel.scope? with
  | none =>
    have keeps := channel.keepsScopes_close scope container
    refine ⟨fun id => ?_, keeps.once⟩
    rw [keeps.openness, exactly id]
    simp
  | some id =>
    obtain ⟨noted, keeps, same⟩ := channel.close_eq scope container
    have still := exactly.settle keeps.settles
    rw [same]
    refine ⟨fun other => ?_, keeps.once.trans
      (Container.releasesOnce_releaseScope ((still id).mpr (holds scope)))⟩
    rw [still.release id other]
    simp

namespace Channel

/-- Some channel has the scope. -/
def Hold (channels : Keyed String Channel) (id : ScopeId) : Prop :=
  ∃ name channel, channels.get? name = some channel ∧ channel.scope? = some id

/-- The open scopes are those of the channels, each of which has its own, and all others have been
released once. -/
structure Balance (channels : Keyed String Channel) (opened container : Container σ) : Prop where
  /-- The scopes of the channels are open, and no others. -/
  exactly : container.OpenExactly (Hold channels)
  /-- Channels do not share scopes. -/
  apart : ∀ {name name' channel channel' id}, channels.get? name = some channel →
    channels.get? name' = some channel' → channel.scope? = some id →
    channel'.scope? = some id → name = name'
  /-- Scopes are released when they cease to be open. -/
  once : ReleasesOnce opened container

namespace Balance

variable {channels : Keyed String Channel} {opened before middle after : Container σ}
  {name : String}

theorem settle (balance : Balance channels opened before) (settles : Settles before after) :
    Balance channels opened after :=
  ⟨balance.exactly.settle settles, balance.apart, balance.once.trans settles.once⟩

/-- Without a channel its scope is not held by any. -/
theorem hold_erase_iff (balance : Balance channels opened before) {channel : Channel}
    (found : channels.get? name = some channel) (id : ScopeId) :
    Hold (channels.erase name) id ↔ Hold channels id ∧ channel.scope? ≠ some id := by
  constructor
  · rintro ⟨other, kept, here, holds⟩
    rw [Keyed.get?_erase] at here
    split at here
    · cases here
    · rename_i differs
      exact ⟨⟨other, kept, here, holds⟩,
        fun same => differs (balance.apart found here same holds)⟩
  · rintro ⟨⟨other, kept, here, holds⟩, without⟩
    refine ⟨other, kept, ?_, holds⟩
    rw [Keyed.get?_erase, if_neg, here]
    rintro rfl
    obtain rfl := Option.some.inj (found.symm.trans here)
    exact without holds

/-- A channel is closed. -/
theorem close (balance : Balance channels opened before) {channel : Channel}
    (found : channels.get? name = some channel) :
    Balance (channels.erase name) opened (before.closeChannel channel) := by
  obtain ⟨exactly, once⟩ := balance.exactly.close fun scope => ⟨name, channel, found, scope⟩
  refine ⟨fun id => (exactly id).trans (balance.hold_erase_iff found id).symm, ?_,
    balance.once.trans once⟩
  intro name name' channel channel' id found found' scope scope'
  rw [Keyed.get?_erase] at found found'
  split at found <;> split at found'
  · cases found
  · cases found
  · cases found'
  · exact balance.apart found found' scope scope'

/-- A channel is opened, before a former one of its name is closed. -/
theorem connect (balance : Balance channels opened before) {channel : Channel}
    (opens : channel.scope? = none ∧ KeepsScopes before middle ∨
      channel.scope? = some before.nextScope ∧ Opens before middle) :
    (middle.OpenExactly fun id => Hold channels id ∨ channel.scope? = some id) ∧
      ReleasesOnce opened middle ∧ ∀ {id}, channel.scope? = some id → ¬ Hold channels id := by
  obtain ⟨none, keeps⟩ | ⟨scope, opens⟩ := opens
  · refine ⟨fun id => ?_, balance.once.trans keeps.once, fun scope => ?_⟩
    · rw [keeps.openness, balance.exactly id]
      simp [none]
    · rw [none] at scope
      cases scope
  · refine ⟨fun id => ?_, balance.once.trans opens.once, fun same holds => ?_⟩
    · rw [balance.exactly.grow opens id, scope]
      simp
    · obtain rfl := Option.some.inj (scope.symm.trans same)
      have there := (balance.exactly _).mpr holds
      rw [Container.nextScope_index, List.getElem?_length] at there
      cases there

/-- A channel that was opened gets its name. -/
theorem insert (balance : Balance channels opened before) {channel : Channel}
    (free : channels.get? name = none)
    (exactly : after.OpenExactly fun id => Hold channels id ∨ channel.scope? = some id)
    (fresh : ∀ {id}, channel.scope? = some id → ¬ Hold channels id)
    (once : ReleasesOnce opened after) :
    Balance (channels.insert name channel) opened after where
  exactly id := by
    rw [exactly id]
    constructor
    · rintro (⟨other, kept, here, holds⟩ | scope)
      · refine ⟨other, kept, ?_, holds⟩
        rw [Keyed.get?_insert, if_neg, here]
        rintro rfl
        rw [free] at here
        cases here
      · exact ⟨name, channel, by rw [Keyed.get?_insert, if_pos rfl], scope⟩
    · rintro ⟨other, kept, here, holds⟩
      rw [Keyed.get?_insert] at here
      split at here
      · exact .inr (Option.some.inj here ▸ holds)
      · exact .inl ⟨other, kept, here, holds⟩
  apart := by
    intro first second channel' channel'' id found found' scope scope'
    rw [Keyed.get?_insert] at found found'
    split at found <;> split at found'
    · rename_i here here'
      exact here.symm.trans here'
    · obtain rfl := Option.some.inj found
      exact absurd ⟨_, _, found', scope'⟩ (fresh scope)
    · obtain rfl := Option.some.inj found'
      exact absurd ⟨_, _, found, scope⟩ (fresh scope')
    · exact balance.apart found found' scope scope'
  once := once

/-- A channel that was opened takes the place of a former one, which is closed. -/
theorem replace (balance : Balance channels opened before) {channel former : Channel}
    (used : channels.get? name = some former)
    (exactly : middle.OpenExactly fun id => Hold channels id ∨ channel.scope? = some id)
    (fresh : ∀ {id}, channel.scope? = some id → ¬ Hold channels id)
    (once : ReleasesOnce opened middle) :
    Balance ((channels.erase name).insert name channel) opened
      (middle.closeChannel former) := by
  obtain ⟨closes, once'⟩ := exactly.close fun scope => .inl ⟨name, former, used, scope⟩
  refine (balance.close used).insert ?_ (fun id => ?_) (fun scope holds => ?_) (once.trans once')
  · rw [Keyed.get?_erase, if_pos rfl]
  · have apart : channel.scope? = some id → former.scope? ≠ some id :=
      fun scope same => fresh scope ⟨name, former, used, same⟩
    rw [closes id]
    change _ ↔ Hold (channels.erase name) id ∨ channel.scope? = some id
    rw [balance.hold_erase_iff used id]
    tauto
  · exact fresh scope ((balance.hold_erase_iff used _).mp holds).1

end Balance

end Channel

/-- Every command keeps the balance. -/
theorem Switchboard.Executes.balance {shared : AdapterRegistry σ} {start opened : ServiceState σ}
    (opening : (Host.openWith spec shared).run services start = (.ok host, opened))
    (discreet : ∀ {key adapter}, host.registry.lookup key = .ok adapter →
      adapter.IsDiscreet services)
    {board : Switchboard σ} (uses : board.Uses spec services host) {container : Container σ}
    (balance : Channel.Balance board.channels container board.state.container)
    {command : Command} {result : Except Failure Answer × Switchboard σ}
    (executes : board.Executes command result) :
    Channel.Balance result.2.channels container result.2.state.container := by
  obtain ⟨host', services', channels, state⟩ := board
  obtain rfl : host' = host := uses.sameHost
  obtain rfl : services' = services := uses.sameServices
  have connects : ∀ {address channel after},
      (host'.openChannel address).run services' state = (.ok channel, after) →
      channel.scope? = none ∧ KeepsScopes state.container after.container ∨
        channel.scope? = some state.container.nextScope ∧
          Opens state.container after.container := by
    intro address channel after connecting
    obtain ⟨described, endpoint, leads⟩ := Host.leadsTo_of_openChannel opening connecting
    have connects := host'.connects services' address state
    rw [connecting] at connects
    exact connects.scopes leads
  cases executes with
  | unsent | absent => exact balance
  | @refused name address failure after connecting =>
    have connects := host'.connects services' address state
    rw [show (host'.openChannel address).run services' state = _ from connecting] at connects
    refine balance.settle (connects.settles fun found => ?_)
    obtain ⟨described, -, -, describes⟩ := Host.described_of_openWith opening found
    exact ⟨_, _, describes.activator⟩
  | opened connecting free =>
    obtain ⟨exactly, once, fresh⟩ := balance.connect (connects connecting)
    exact balance.insert free exactly fresh once
  | replaced connecting used =>
    obtain ⟨exactly, once, fresh⟩ := balance.connect (connects connecting)
    exact balance.replace used exactly fresh once
  | @called name channel message result after found calling =>
    obtain ⟨described, endpoint, leads⟩ := uses.leads found
    have calls := host'.calls services' channel message state
    rw [show (host'.call channel message).run services' state = _ from calling] at calls
    exact balance.settle (calls.settles leads discreet)
  | closed found => exact balance.close found

/-- What is true of scopes at a point of a run, given the container over which the host was
opened. -/
structure Switchboard.Accounts (board : Switchboard σ) (opened : Container σ) : Prop where
  /-- A channel has a scope if its endpoint has an instance for each session, and in no other
  case. -/
  manned : ∀ {name channel}, board.channels.get? name = some channel →
    ∃ endpoint, board.host.endpoint? channel.address = some endpoint ∧
      (channel.scope?.isSome = true ↔ endpoint.mode = .perSession)
  /-- These scopes are open, and no others. -/
  exactly : ∀ id, board.state.container.openness[id.index]? = some true ↔
    ∃ name channel, board.channels.get? name = some channel ∧ channel.scope? = some id
  /-- No two channels have the same one. -/
  apart : ∀ {name name' channel channel' id}, board.channels.get? name = some channel →
    board.channels.get? name' = some channel' → channel.scope? = some id →
    channel'.scope? = some id → name = name'
  /-- Since the host was opened, every scope that is not open any more has been released once, and
  no other has been released. -/
  once : ∀ id, board.state.container.releases id = opened.releases id +
    if board.state.container.openness[id.index]? = some false then 1 else 0
  /-- What a call opens is released before it returns, and what was open before stays open. -/
  called : ∀ name message, ∃ count,
    (board.execute (.call name message)).2.state.container.openness =
      board.state.container.openness ++ List.replicate count false
  /-- Closing a channel releases the scope that it has, and nothing else. -/
  closed : ∀ {name channel}, board.channels.get? name = some channel →
    (board.execute (.close name)).2.state.container.openness =
      match channel.scope? with
      | some id => board.state.container.openness.set id.index false
      | none => board.state.container.openness
  /-- The session of the instance that serves a call is open when its adapter is invoked, and still
  open when the adapter has answered. -/
  serving : ∀ {name channel endpoint message hosting owned middle key adapter inputs},
    board.channels.get? name = some channel →
    board.host.endpoint? channel.address = some endpoint →
    endpoint.Staffs board.services channel board.state hosting owned middle →
    board.host.registry.lookup key = .ok adapter →
    hosting.session.IsOpen middle.container ∧
      hosting.session.IsOpen ((adapter.invoke hosting.served inputs).run board.services
        (middle.callStarted (channel.contextOf message hosting owned))).2.container
  /-- A session that a call has opened for what is injected is still open when the implementation
  has answered. -/
  injecting : ∀ {channel : Channel} {message hosting owned} {middle : ServiceState σ}
      {wrapper : Wrapper σ} {arguments after} (object : InstanceId) (passed : List Value),
    (∀ object arguments, (wrapper.implementation object arguments).Settles board.services) →
    let context := channel.contextOf message hosting owned
    let started := middle.callStarted context
    Wrapper.isolates context wrapper.plan.injected = true →
    Wrapper.Answered board.services context (Wrapper.sessionOf context started)
      (Wrapper.begun context wrapper.plan.injected started).container wrapper.plan.injected
      arguments after →
    ((wrapper.call object passed arguments).run board.services
      { Wrapper.begun context wrapper.plan.injected started with
        container := after }).2.container.openness[started.container.nextScope.index]? = some true

/-- Closing a channel releases the scope that it has. -/
theorem Channel.openness_close (channel : Channel) (container : Container σ) :
    (container.closeChannel channel).openness =
      match channel.scope? with
      | some id => container.openness.set id.index false
      | none => container.openness := by
  cases scope : channel.scope? with
  | none => exact (channel.keepsScopes_close scope container).openness
  | some id =>
    obtain ⟨noted, keeps, same⟩ := channel.close_eq scope container
    rw [same, Container.openness_releaseScope, keeps.openness]

/-- A switchboard in balance accounts for all scopes. -/
theorem Channel.Balance.accounts {board : Switchboard σ} {opened : Container σ}
    (balance : Balance board.channels opened board.state.container)
    (untouched : opened.openness = [])
    (uses : board.Uses spec services host)
    (discreet : ∀ {key adapter}, host.registry.lookup key = .ok adapter →
      adapter.IsDiscreet services) :
    board.Accounts opened := by
  obtain ⟨host', services', channels, state⟩ := board
  obtain rfl : host' = host := uses.sameHost
  obtain rfl : services' = services := uses.sameServices
  exact
  { manned := fun found => by
      obtain ⟨described, endpoint, leads⟩ := uses.leads found
      exact ⟨endpoint, leads.found, leads.scope?_isSome⟩
    exactly := balance.exactly
    apart := balance.apart
    once := fun id => by
      have once := balance.once id
      simpa [Container.closings, untouched] using once
    called := fun name message => by
      cases found : channels.get? name with
      | none =>
        refine ⟨0, ?_⟩
        simp [Switchboard.execute, found]
      | some channel =>
        obtain ⟨described, endpoint, leads⟩ := uses.leads found
        have settles := (host'.calls services' channel message state).settles leads discreet
        simpa [Switchboard.execute, Switchboard.serve, found] using settles.opened
    closed := fun {name channel} found => by
      have here : channels.get? name = some channel := found
      simp only [Switchboard.execute, here, Switchboard.closeChannel_eq]
      exact channel.openness_close state.container
    serving := fun {name channel endpoint message hosting owned middle key adapter inputs} found
        reached staffed looked => by
      obtain ⟨described, endpoint', leads⟩ := uses.leads found
      obtain rfl : endpoint' = endpoint := Option.some.inj (leads.found.symm.trans reached)
      have isOpen := staffed.isOpen leads fun scope =>
        (balance.exactly _).mpr ⟨name, channel, found, scope⟩
      have started : Settles middle.container
          (middle.callStarted (channel.contextOf message hosting owned)).container :=
        (KeepsScopes.report _ fun _ => rfl).settles
      exact ⟨isOpen, isOpen.of_settles
        (started.trans ((discreet looked).settles_invoke hosting.served inputs _))⟩
    injecting := fun object passed settles isolated answered =>
      Wrapper.open_of_call settles isolated answered object passed }

section

variable {shared : AdapterRegistry σ} {start opened : ServiceState σ}
  (unused : start.container.IsUnused)
  (opening : (Host.openWith spec shared).run services start = (.ok host, opened))

include unused opening

/-- Opening a host opens no scope. -/
theorem Host.openness_opened : opened.container.openness = [] := by
  refine openWith_induction (P := fun container => container.openness = []) id
    (fun former steps => steps.keepsScopes.openness.trans former) ?_ opening
  rw [Container.openness, unused.scopes, List.map_nil]

variable (discreet : ∀ {key adapter}, host.registry.lookup key = .ok adapter →
  adapter.IsDiscreet services)

include discreet

/-- Throughout a run the scopes are in balance. -/
theorem Host.balance_after (commands : List Switchboard.Command) :
    Channel.Balance ((Switchboard.start host services opened).after commands).channels
      opened.container
      ((Switchboard.start host services opened).after commands).state.container := by
  have nothing : Channel.Balance (.empty : Keyed String Channel) opened.container
      opened.container := by
    refine ⟨fun id => ?_, ?_, fun _ => rfl⟩
    · rw [openness_opened unused opening]
      constructor
      · rintro ⟨⟩
      · rintro ⟨_, _, ⟨⟩, _⟩
    · rintro _ _ _ _ _ ⟨⟩
  exact (Switchboard.Uses.induction opening
    (P := fun board => Channel.Balance board.channels opened.container board.state.container)
    nothing (fun uses balance executes => executes.balance opening discreet uses balance)
    commands).2

end

/-- At every point of every run of an opened host all scopes are accounted for. -/
theorem Host.scopes_accounted {shared : AdapterRegistry σ} {start opened : ServiceState σ}
    (unused : start.container.IsUnused)
    (opening : (openWith spec shared).run services start = (.ok host, opened))
    (discreet : ∀ {key adapter}, host.registry.lookup key = .ok adapter →
      adapter.IsDiscreet services)
    (commands : List Switchboard.Command) :
    ((Switchboard.start host services opened).after commands).Accounts opened.container :=
  (balance_after unused opening discreet commands).accounts (openness_opened unused opening)
    (Switchboard.uses_after opening commands) discreet

end

namespace Greetings

open Sample Sample.Greeter

/-- A service that wants a clock. -/
def greeter : ServiceKey := ⟨"Greeter", none⟩

/-- The clock of a session. -/
def clock : ServiceKey := ⟨clockType, none⟩

/-- Each greeter asks its session for the clock. -/
def services : Services Content :=
  (Services.empty.add greeter .transient (.factory (.require clock (.build "Greeter" .plain)))).add
    clock .scoped (.factory (.build clockType (.clock 7)))

/-- A contract of one operation, into which the clock is injected. -/
def contract : ServedContract Content :=
  .ofOperations "Greeter" "dyn Greeter"
    [wrapped ⟨"greet", [("name", .string, .input)], false, true, true⟩
      [given "name" .string, service "clock" clockType none false] greet]

/-- The service with an instance for each session, for each call, and for all calls. -/
def spec : HostSpec Content :=
  ⟨.standard, none,
    [⟨"session", contract, greeter, none, .netTcp⟩, ⟨"call", contract, greeter, none, .basicHttp⟩,
      ⟨"host", contract, greeter, some .single, .netTcp⟩]⟩

/-- What opening the host comes to. -/
def opening : Except Failure (Host Content) × ServiceState Content :=
  (Host.openWith spec (.ofEntries contract.entries)).run services (.initial .empty)

/-- The open host. -/
def host : Host Content := opening.1.toOption.getD ⟨.empty, .empty⟩

/-- A greeting. -/
def greeting : Message := ⟨"greet", [.string "ann"], .empty⟩

/-- A channel to each endpoint and a call through each of them. -/
def commands : List Switchboard.Command :=
  [.openChannel "a" "session", .openChannel "b" "call", .openChannel "c" "host",
    .call "a" greeting, .call "b" greeting, .call "c" greeting]

theorem openWith_spec :
    (Host.openWith spec (.ofEntries contract.entries)).run services (.initial .empty) =
      (.ok host, opening.2) := by
  have succeeded : opening.1.isOk = true := by decide +kernel
  exact eq_of_isOk _ succeeded

/-- Greeting changes nothing. -/
theorem run_greet (object : InstanceId) (arguments : List Argument)
    (state : ServiceState Content) : ((greet object arguments).run services state).2 = state := by
  unfold greet
  split <;> rfl

theorem isDiscreet_of_lookup {key : String} {adapter : Adapter Content}
    (looked : host.registry.lookup key = .ok adapter) : adapter.IsDiscreet services := by
  rw [Host.registry_of_openWith openWith_spec] at looked
  obtain ⟨entry, listed, rfl⟩ := Registry.mem_of_lookup_ofEntries looked
  obtain ⟨source, mem, rfl⟩ := List.mem_map.mp listed
  obtain rfl := List.mem_singleton.mp mem
  refine .wrapped ⟨_, .own, greet⟩ rfl fun object arguments state => ?_
  rw [run_greet]
  exact Container.Settles.refl _

end Greetings

open Greetings in
theorem Host.scopes_accounted_greetings :
    (Container.empty : Container Sample.Content).IsUnused ∧
      (Host.openWith spec (.ofEntries contract.entries)).run services (.initial .empty) =
        (.ok host, opening.2) ∧
      (∀ {key adapter}, host.registry.lookup key = .ok adapter → adapter.IsDiscreet services) ∧
      ((Switchboard.start host services opening.2).after commands).Accounts opening.2.container :=
  ⟨⟨rfl, rfl, rfl⟩, openWith_spec, isDiscreet_of_lookup,
    Host.scopes_accounted ⟨rfl, rfl, rfl⟩ openWith_spec isDiscreet_of_lookup commands⟩

open Greetings in
/-- The scope of the first channel is open; those of the calls have been released. -/
example :
    ((Switchboard.start host services opening.2).after commands).state.container.openness =
      [true, false, false] := by
  decide +kernel

end ServiceDispatch
