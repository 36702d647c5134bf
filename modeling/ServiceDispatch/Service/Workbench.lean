import ServiceDispatch.Service.Resolution
import ServiceDispatch.Service.Retention

/-!
# Workbenches

A container with scopes and held instances that go by name. A workbench also tells, after each
command, which instances are no longer kept by anything.
-/

namespace ServiceDispatch

/-- A container in use. -/
structure Workbench (σ : Type) where
  /-- The registrations. -/
  services : Services σ
  /-- The container over them. -/
  container : Container σ
  /-- Instances that are held, by name. -/
  holds : Keyed String InstanceId
  /-- Open scopes, by name. -/
  scopes : Keyed String ScopeId
  /-- Instances that were told to be released. -/
  told : List InstanceId

namespace Workbench

variable {σ : Type}

/-- A container that has not been used. -/
def new (services : Services σ) (container : Container σ) : Workbench σ :=
  ⟨services, container, .empty, .empty, []⟩

/-- What can be done with a container. -/
inductive Command where
  /-- Resolves a service from the scope of a name or from the container itself, and holds it if a
  name is given for that. -/
  | resolve (key : ServiceKey) (isOptional : Bool) (scope hold : Option String)
  /-- Opens a scope; a former one of the name is released. -/
  | openScope (name : String)
  /-- Releases a scope. -/
  | closeScope (name : String)
  /-- Lets an instance go. -/
  | letGo (name : String)
  deriving DecidableEq, Repr

/-- What a container answers: nothing, or the result of a resolution. -/
abbrev Answer := Option (Except Failure (Option InstanceId))

/-- The session of a name. -/
def session (bench : Workbench σ) (scope : Option String) : Session :=
  match scope.bind bench.scopes.get? with
  | some id => .scope id
  | none => .root

/-- Releases the scope of a name, if there is one. -/
def closeScope (bench : Workbench σ) (name : String) : Workbench σ :=
  match bench.scopes.get? name with
  | none => bench
  | some id =>
    { bench with
      container := bench.container.releaseScope id
      scopes := bench.scopes.erase name }

/-- Opens a scope under a name. -/
def openScope (bench : Workbench σ) (name : String) : Workbench σ :=
  let (id, container) := bench.container.openScope
  let closed := closeScope { bench with container } name
  { closed with scopes := closed.scopes.insert name id }

/-- Holds an instance under a name, if both are given. -/
def hold (bench : Workbench σ) (name : Option String)
    (result : Except Failure (Option InstanceId)) : Workbench σ :=
  match name, result with
  | some name, .ok (some object) => { bench with holds := bench.holds.insert name object }
  | _, _ => bench

/-- Carries a command out. -/
def execute (bench : Workbench σ) : Command → Answer × Workbench σ
  | .resolve key isOptional scope name =>
    let session := bench.session scope
    let action : Resolution σ (Option InstanceId) :=
      if isOptional then Resolution.find session key
      else some <$> Resolution.require session key
    let (result, container) := action.run bench.services bench.container
    (some result, hold { bench with container } name result)
  | .openScope name => (none, bench.openScope name)
  | .closeScope name => (none, bench.closeScope name)
  | .letGo name => (none, { bench with holds := bench.holds.erase name })

/-- The instances that were released since the last time, in the order in which they were built. -/
def settle (bench : Workbench σ) : List InstanceId × Workbench σ :=
  let released := bench.container.released (bench.holds.values ++ bench.services.existing)
  let fresh := released.filter fun id => !bench.told.contains id
  (fresh, { bench with told := bench.told ++ fresh })

/-- Closes all scopes and lets all held instances go. -/
def clear (bench : Workbench σ) : Workbench σ :=
  let closed := bench.scopes.keys.foldl closeScope bench
  { closed with holds := .empty }

/-- Lets everything go that the container keeps. -/
def drop (bench : Workbench σ) : Workbench σ :=
  let cleared := bench.clear
  { cleared with
    services := .empty
    container := { cleared.container with singletons := .empty, rootScoped := .empty } }

end Workbench

end ServiceDispatch
