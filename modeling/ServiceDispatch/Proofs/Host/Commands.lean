import ServiceDispatch.Host.Switchboard
import ServiceDispatch.Proofs.Host.Activation

/-!
# Commands to a switchboard

Everything that callers can do to an opened host, told once: how a channel is opened or fails to be,
what closing one leaves behind, and what each command makes of the open channels and of the state.
What runs of commands keep is derived from that.
-/

namespace ServiceDispatch

variable {σ ε : Type} {services : Services σ} {state : ServiceState σ}

/-- Notes that a channel is closed and lets go what it keeps. -/
def Container.closeChannel (container : Container σ) (channel : Channel) : Container σ :=
  let noted := container.report (.channelClosed channel.address channel.session)
  match channel.kept with
  | some hosting => noted.releaseHosting hosting
  | none => noted

@[simp] theorem Channel.run_close (channel : Channel) :
    (channel.close : Serving σ ε Unit).run services state =
      (.ok (), { state with container := state.container.closeChannel channel }) := by
  rw [close, Serving.run_bind, Serving.run_report, Container.closeChannel]
  cases channel.kept with
  | none => rfl
  | some hosting => exact InstanceContext.run_release hosting

/-- How opening a channel may end. -/
inductive Host.Connects (host : Host σ) (services : Services σ) (address : String)
    (before : ServiceState σ) : Except Failure Channel × ServiceState σ → Prop where
  /-- There is no endpoint at the address. -/
  | unknown (missing : host.endpoint? address = none) :
      Connects host services address before (.error (.unknownEndpoint address), before)
  /-- The instance that the channel should keep cannot be activated. -/
  | inactive {endpoint : Endpoint σ} {failure : Failure} {after : ServiceState σ}
      (found : host.endpoint? address = some endpoint) (mode : endpoint.mode = .perSession)
      (activation : (InstanceContext.activate .perSession endpoint.activator).run services before =
        (.error failure, after)) :
      Connects host services address before (.error failure, after)
  /-- The channel keeps no instance. -/
  | plain {endpoint : Endpoint σ} (session : Option String) (sessions : Nat)
      (found : host.endpoint? address = some endpoint) (mode : endpoint.mode ≠ .perSession) :
      Connects host services address before
        (.ok ⟨address, session, none⟩,
          { before with
            container := before.container.report (.channelOpened address session)
            sessions })
  /-- The channel keeps an instance that was activated for it. -/
  | manned {endpoint : Endpoint σ} {hosting : InstanceContext} {middle : ServiceState σ}
      (session : Option String) (sessions : Nat)
      (found : host.endpoint? address = some endpoint) (mode : endpoint.mode = .perSession)
      (activation : (InstanceContext.activate .perSession endpoint.activator).run services before =
        (.ok hosting, middle)) :
      Connects host services address before
        (.ok ⟨address, session, some hosting⟩,
          { middle with
            container := middle.container.report (.channelOpened address session)
            sessions })

/-- A channel is announced once its instance is there. -/
theorem Host.run_announce (services : Services σ) (state : ServiceState σ) (sessionful : Bool)
    (address : String) (kept : Option InstanceContext) :
    ∃ session sessions,
      (do
        let session ← if sessionful then some <$> freshSession else pure none
        Serving.report (.channelOpened address session)
        pure ⟨address, session, kept⟩ : Run σ Channel).run services state =
          (.ok ⟨address, session, kept⟩,
            { state with
              container := state.container.report (.channelOpened address session)
              sessions }) := by
  cases sessionful with
  | false => exact ⟨none, state.sessions, rfl⟩
  | true => exact ⟨_, state.sessions + 1, rfl⟩

theorem Host.connects (host : Host σ) (services : Services σ) (address : String)
    (state : ServiceState σ) :
    host.Connects services address state ((host.openChannel address).run services state) := by
  rw [openChannel, Serving.run_bind, Serving.run_ofExcept, endpointAt]
  cases found : host.endpoint? address with
  | none => exact .unknown found
  | some endpoint =>
    dsimp only
    by_cases mode : endpoint.mode = .perSession
    · rw [if_pos mode, mode, Serving.run_bind, Serving.run_map]
      cases activation : (InstanceContext.activate .perSession endpoint.activator).run services
          state with
      | mk result middle =>
        cases result with
        | error failure => exact .inactive found mode activation
        | ok hosting =>
          obtain ⟨session, sessions, announced⟩ := run_announce services middle
            endpoint.binding.sessionful address (some hosting)
          dsimp only [Except.map]
          rw [announced]
          exact .manned session sessions found mode activation
    · rw [if_neg mode, Serving.run_bind, Serving.run_pure]
      obtain ⟨session, sessions, announced⟩ := run_announce services state
        endpoint.binding.sessionful address none
      dsimp only
      rw [announced]
      exact .plain session sessions found mode

namespace Switchboard

/-- How a command may end. -/
inductive Executes (board : Switchboard σ) :
    Command → Except Failure Answer × Switchboard σ → Prop where
  /-- A channel cannot be opened. -/
  | refused {name address : String} {failure : Failure} {after : ServiceState σ}
      (opening : (board.host.openChannel address).run board.services board.state =
        (.error failure, after)) :
      Executes board (.openChannel name address) (.error failure, { board with state := after })
  /-- A channel is opened under a new name. -/
  | opened {name address : String} {channel : Channel} {after : ServiceState σ}
      (opening : (board.host.openChannel address).run board.services board.state =
        (.ok channel, after))
      (free : board.channels.get? name = none) :
      Executes board (.openChannel name address)
        (.ok (.opened channel),
          { board with state := after, channels := board.channels.insert name channel })
  /-- A channel is opened in place of a former one, which is closed. -/
  | replaced {name address : String} {channel former : Channel} {after : ServiceState σ}
      (opening : (board.host.openChannel address).run board.services board.state =
        (.ok channel, after))
      (used : board.channels.get? name = some former) :
      Executes board (.openChannel name address)
        (.ok (.opened channel),
          { board with
            state := { after with container := after.container.closeChannel former }
            channels := (board.channels.erase name).insert name channel })
  /-- A message is sent through a channel. -/
  | called {name : String} {channel : Channel} {message : Message}
      {result : Except Failure Outcome} {after : ServiceState σ}
      (found : board.channels.get? name = some channel)
      (calling : (board.host.call channel message).run board.services board.state =
        (result, after)) :
      Executes board (.call name message) (result.map .served, { board with state := after })
  /-- A channel is closed. -/
  | closed {name : String} {channel : Channel}
      (found : board.channels.get? name = some channel) :
      Executes board (.close name)
        (.ok .closed,
          { board with
            state := { board.state with
              container := board.state.container.closeChannel channel }
            channels := board.channels.erase name })
  /-- There is no channel to send a message through. -/
  | unsent {name : String} {message : Message} (free : board.channels.get? name = none) :
      Executes board (.call name message) (.ok .noChannel, board)
  /-- There is no channel to close. -/
  | absent {name : String} (free : board.channels.get? name = none) :
      Executes board (.close name) (.ok .noChannel, board)

theorem closeChannel_eq (board : Switchboard σ) (name : String) (channel : Channel) :
    board.closeChannel name channel =
      { board with
        state := { board.state with container := board.state.container.closeChannel channel }
        channels := board.channels.erase name } := by
  rw [closeChannel, serve, Channel.run_close]

theorem executes (board : Switchboard σ) (command : Command) :
    board.Executes command (board.execute command) := by
  cases command with
  | openChannel name address =>
    rw [execute, serve]
    dsimp only
    cases opening : (board.host.openChannel address).run board.services board.state with
    | mk result after =>
      cases result with
      | error failure => exact .refused opening
      | ok channel =>
        dsimp only
        cases used : board.channels.get? name with
        | none => exact .opened opening used
        | some former =>
          dsimp only
          rw [closeChannel_eq]
          exact .replaced opening used
  | call name message =>
    rw [execute]
    cases found : board.channels.get? name with
    | none => exact .unsent found
    | some channel => exact .called found rfl
  | close name =>
    rw [execute]
    cases found : board.channels.get? name with
    | none => exact .absent found
    | some channel =>
      dsimp only
      rw [closeChannel_eq]
      exact .closed found

/-- The host and the registrations stay the same ones. -/
theorem Executes.same {board : Switchboard σ} {command : Command}
    {result : Except Failure Answer × Switchboard σ} (executes : board.Executes command result) :
    result.2.host = board.host ∧ result.2.services = board.services := by
  cases executes <;> exact ⟨rfl, rfl⟩

/-- A channel that is open after a command was open before it, or the command has opened it. -/
theorem Executes.channel {board : Switchboard σ} {command : Command}
    {result : Except Failure Answer × Switchboard σ} (executes : board.Executes command result)
    {name : String} {channel : Channel} (found : result.2.channels.get? name = some channel) :
    board.channels.get? name = some channel ∨
      ∃ address after, (board.host.openChannel address).run board.services board.state =
        (.ok channel, after) := by
  cases executes with
  | refused | called | unsent | absent => exact .inl found
  | opened opening free =>
    rw [Keyed.get?_insert] at found
    split at found
    · obtain rfl := Option.some.inj found
      exact .inr ⟨_, _, opening⟩
    · exact .inl found
  | replaced opening used =>
    rw [Keyed.get?_insert, Keyed.get?_erase] at found
    split at found
    · obtain rfl := Option.some.inj found
      exact .inr ⟨_, _, opening⟩
    · exact .inl found
  | closed here =>
    rw [Keyed.get?_erase] at found
    split at found
    · cases found
    · exact .inl found

/-- The switchboard of a host that was just opened. -/
def start (host : Host σ) (services : Services σ) (opened : ServiceState σ) : Switchboard σ :=
  ⟨host, services, .empty, opened⟩

/-- What has become of a switchboard after some commands. -/
def after (board : Switchboard σ) (commands : List Command) : Switchboard σ :=
  commands.foldl (fun board command => (board.execute command).2) board

end Switchboard

end ServiceDispatch
