import ServiceDispatch.Host.Opening

/-!
# Channels

The caller's side of a connection to an endpoint. On a binding with sessions a channel has a session
of its own; at an endpoint with one instance for each session it also keeps that instance until it
is closed.
-/

namespace ServiceDispatch

/-- A connection to an endpoint. -/
structure Channel where
  /-- Address of the endpoint. -/
  address : String
  /-- Its session, if the binding has sessions. -/
  session : Option String
  /-- The instance that it keeps, if the mode is such. -/
  kept : Option InstanceContext
  deriving DecidableEq, Repr

/-- The displayed form of a channel. -/
def Channel.display (channel : Channel) : String :=
  Text.record "Channel"
    [("address", Text.quote channel.address),
     ("session_id", Text.optional (channel.session.map Text.quote))] true

/-- Closes a channel and lets the instance that it keeps go. -/
def Channel.close {σ ε : Type} (channel : Channel) : Serving σ ε Unit := do
  Serving.report (.channelClosed channel.address channel.session)
  match channel.kept with
  | some hosting => hosting.release
  | none => pure ()

namespace Host

variable {σ : Type}

/-- A session that no other channel has. -/
def freshSession : Run σ String :=
  modifyGet fun state =>
    ("S" ++ toString (state.sessions + 1), { state with sessions := state.sessions + 1 })

/-- The endpoint that a channel connects to. -/
def endpointAt (host : Host σ) (address : String) : Except Failure (Endpoint σ) :=
  match host.endpoint? address with
  | some endpoint => .ok endpoint
  | none => .error (.unknownEndpoint address)

/-- Opens a channel. -/
def openChannel (host : Host σ) (address : String) : Run σ Channel := do
  let endpoint ← Serving.ofExcept (host.endpointAt address)
  let kept ←
    if endpoint.mode = .perSession then
      some <$> InstanceContext.activate endpoint.mode endpoint.activator
    else pure none
  let session ← if endpoint.binding.sessionful then some <$> freshSession else pure none
  Serving.report (.channelOpened address session)
  pure ⟨address, session, kept⟩

/-- The instance that serves a call, and whether it was opened for this call alone. -/
def instanceFor (endpoint : Endpoint σ) (channel : Channel) : Run σ (InstanceContext × Bool) := do
  match endpoint.mode with
  | .perCall => return (← InstanceContext.activate .perCall endpoint.activator, true)
  | .perSession =>
    match channel.kept with
    | some hosting => pure (hosting, false)
    | none => throw (.internal "session instance context was not opened")
  | .single =>
    match endpoint.single with
    | some hosting => pure (hosting, false)
    | none => throw (.internal "single instance context was not opened")

/-- Sends a message through a channel and answers the outcome of the call. -/
def call (host : Host σ) (channel : Channel) (message : Message) : Run σ Outcome := do
  let endpoint ← Serving.ofExcept (host.endpointAt channel.address)
  let signature ← Serving.ofExcept (endpoint.operation message.action)
  let (hosting, owned) ← instanceFor endpoint channel
  host.registry.dispatchSignature signature hosting.served message.arguments
    { hosting
      ownsHosting := owned
      properties := message.properties
      action := message.action
      session := channel.session }

end Host

end ServiceDispatch
