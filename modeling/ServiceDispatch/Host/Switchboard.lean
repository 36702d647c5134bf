import ServiceDispatch.Host.Channel
import ServiceDispatch.Service.Retention

/-!
# Switchboards

An opened host with channels that go by name: what callers do to a host, as commands.
-/

namespace ServiceDispatch

/-- An opened host in use. -/
structure Switchboard (σ : Type) where
  /-- The host. -/
  host : Host σ
  /-- The registrations. -/
  services : Services σ
  /-- Open channels, by name. -/
  channels : Keyed String Channel
  /-- What changes while calls are served. -/
  state : ServiceState σ

namespace Switchboard

variable {σ : Type}

/-- What callers do. -/
inductive Command where
  /-- Opens a channel to an address; a former one of the name is closed. -/
  | openChannel (name address : String)
  /-- Sends a message through a channel. -/
  | call (name : String) (message : Message)
  /-- Closes a channel. -/
  | close (name : String)

/-- What callers are answered. -/
inductive Answer where
  /-- A channel is open. -/
  | opened (channel : Channel)
  /-- A call was served. -/
  | served (outcome : Outcome)
  /-- A channel is closed. -/
  | closed
  /-- There is no channel of the name. -/
  | noChannel

/-- Carries an action out on the state. -/
def serve {α : Type} (board : Switchboard σ) (action : Run σ α) :
    Except Failure α × Switchboard σ :=
  let (result, state) := action.run board.services board.state
  (result, { board with state })

/-- Closes a channel. -/
def closeChannel (board : Switchboard σ) (name : String) (channel : Channel) : Switchboard σ :=
  let closed := (board.serve channel.close).2
  { closed with channels := closed.channels.erase name }

/-- Carries a command out. -/
def execute (board : Switchboard σ) : Command → Except Failure Answer × Switchboard σ
  | .openChannel name address =>
    match board.serve (board.host.openChannel address) with
    | (.error failure, next) => (.error failure, next)
    | (.ok channel, next) =>
      let cleared :=
        match next.channels.get? name with
        | some former => next.closeChannel name former
        | none => next
      (.ok (.opened channel),
        { cleared with channels := cleared.channels.insert name channel })
  | .call name message =>
    match board.channels.get? name with
    | none => (.ok .noChannel, board)
    | some channel =>
      let (result, next) := board.serve (board.host.call channel message)
      (result.map .served, next)
  | .close name =>
    match board.channels.get? name with
    | none => (.ok .noChannel, board)
    | some channel => (.ok .closed, board.closeChannel name channel)

/-- Closes all channels. -/
def closeAll (board : Switchboard σ) : Switchboard σ :=
  board.channels.entries.foldl (fun board entry => board.closeChannel entry.1 entry.2) board

/-- The instances that serve calls and are not let go yet. -/
def hosted (board : Switchboard σ) : List InstanceId :=
  ((board.host.endpoints.values.filterMap (·.single)) ++
    (board.channels.values.filterMap (·.kept))).map (·.served.object)

/-- The instances that nothing keeps any more. -/
def released (board : Switchboard σ) : List InstanceId :=
  board.state.container.released (board.hosted ++ board.services.existing)

end Switchboard

end ServiceDispatch
