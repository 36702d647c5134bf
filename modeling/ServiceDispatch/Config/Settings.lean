import ServiceDispatch.Event
import ServiceDispatch.Text.Character

/-!
# Settings

What can be configured, the values that hold unless configured otherwise, and what is checked before
settings are used.
-/

namespace ServiceDispatch

/-- Settings of the log. -/
structure LogSettings where
  /-- The level from which on events are shown. -/
  level : String
  /-- Whether events are shown as JSON. -/
  jsonFormat : Bool
  /-- The file that events are written to, if any. -/
  fileOutput : Option String
  deriving DecidableEq, Repr

/-- Settings of dispatch. -/
structure DispatchSettings where
  /-- Whether a host refuses a registry in which a key was registered twice. -/
  rejectCollisions : Bool
  deriving DecidableEq, Repr

/-- Settings of hosts. -/
structure HostSettings where
  /-- The mode of endpoints that declare none. -/
  defaultMode : InstanceMode
  /-- Names of the bindings that have sessions. -/
  sessionfulBindings : List String
  deriving DecidableEq, Repr

/-- All settings. -/
structure Settings where
  /-- Settings of the log. -/
  log : LogSettings
  /-- Settings of dispatch. -/
  dispatch : DispatchSettings
  /-- Settings of hosts. -/
  host : HostSettings
  deriving DecidableEq, Repr

/-- The binding with sessions that is known without configuration. -/
def netTcpName : String := "net_tcp"

/-- The binding without sessions that is known without configuration. -/
def basicHttpName : String := "basic_http"

/-- The settings that hold unless configured otherwise. -/
def Settings.standard : Settings where
  log := { level := "info", jsonFormat := false, fileOutput := none }
  dispatch := { rejectCollisions := true }
  host := { defaultMode := .standard, sessionfulBindings := [netTcpName] }

/-- Whether a binding of a name has sessions. -/
def HostSettings.isSessionful (settings : HostSettings) (name : String) : Bool :=
  settings.sessionfulBindings.contains name

/-- The level of a name, in any case. -/
def Level.parse (name : String) : Except Failure Level :=
  let lower := Text.toLower name
  if lower = "trace" then .ok .trace
  else if lower = "debug" then .ok .debug
  else if lower = "info" then .ok .info
  else if lower = "warn" ∨ lower = "warning" then .ok .warn
  else if lower = "error" then .ok .error
  else
    .error (.configuration
      ("Invalid log level: " ++ name ++ ". Use trace, debug, info, warn, or error") none)

/-- Checks settings: first the level of the log, then the names of bindings, which must not be
blank. -/
def Settings.validate (settings : Settings) : Except Failure Unit :=
  match Level.parse settings.log.level with
  | .error failure => .error failure
  | .ok _ =>
    if settings.host.sessionfulBindings.any Text.isBlankText then
      .error (.configuration "Sessionful binding names cannot be empty" none)
    else .ok ()

end ServiceDispatch
