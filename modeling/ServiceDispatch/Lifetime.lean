import ServiceDispatch.Failure
import ServiceDispatch.Text.Case

/-!
# Lifetimes and instance modes

How long the container keeps an instance, and how a host shares instances among calls.
-/

namespace ServiceDispatch

/-- Lifetime with which a service is registered. -/
inductive Lifetime where
  /-- One instance for the whole provider. -/
  | singleton
  /-- One instance for each resolution scope. -/
  | scoped
  /-- A new instance on every resolution. -/
  | transient
  deriving DecidableEq, Repr

/-- The written form of a lifetime. -/
def Lifetime.display : Lifetime → String
  | singleton => "singleton"
  | .scoped => "scoped"
  | transient => "transient"

/-- The lifetime of a written form. -/
def Lifetime.ofDisplay? (text : String) : Option Lifetime :=
  [singleton, .scoped, transient].find? fun lifetime => lifetime.display = text

/-- How a host shares the instances of a service. -/
inductive InstanceMode where
  /-- A new instance for every call. -/
  | perCall
  /-- One instance for each channel session. -/
  | perSession
  /-- One instance as long as the host lives. -/
  | single
  deriving DecidableEq, Repr

namespace InstanceMode

/-- The mode of endpoints that declare none, unless the configuration names another. -/
def standard : InstanceMode := perSession

/-- The mode a service is really hosted with. One that the container already shares is resolved once
and hosted as `single` whatever was declared. -/
def effective (declared : InstanceMode) : Lifetime → InstanceMode
  | .singleton | .scoped => single
  | .transient => declared

/-- The mode on a binding without sessions. -/
def withoutSessions : InstanceMode → InstanceMode
  | perSession => perCall
  | other => other

/-- Whether the instance lives as long as the host. -/
def isSingleton : InstanceMode → Bool
  | single => true
  | _ => false

/-- The written form of a mode. -/
def display : InstanceMode → String
  | perCall => "per_call"
  | perSession => "per_session"
  | single => "single"

/-- The constructor-like name shown in displayed records. -/
def variantName : InstanceMode → String
  | perCall => "PerCall"
  | perSession => "PerSession"
  | single => "Single"

/-- Lower case with every hyphen written as an underscore. -/
def spelling (text : String) : String :=
  String.ofList ((Text.toLower text).toList.map fun c => if c = '-' then '_' else c)

/-- Reads a mode, ignoring case and the choice between hyphen and underscore. -/
def parse (text : String) : Except Failure InstanceMode :=
  let name := spelling text
  if name = "per_call" ∨ name = "percall" then .ok perCall
  else if name = "per_session" ∨ name = "persession" then .ok perSession
  else if name = "single" then .ok single
  else .error (.configuration ("Unknown instance context mode '" ++ name ++ "'") none)

/-- The mode with the given written form, spelled exactly. -/
def ofDisplay? (text : String) : Option InstanceMode :=
  [perCall, perSession, single].find? fun mode => mode.display = text

end InstanceMode

end ServiceDispatch
