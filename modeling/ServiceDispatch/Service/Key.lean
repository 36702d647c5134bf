/-!
# Identities in the container

Services are registered and asked for by key. Instances and scopes are told apart by numbers that
are given out once and never again.
-/

namespace ServiceDispatch

/-- Identity of a registration: the type of the service, and a name where several of one type are
registered. -/
structure ServiceKey where
  /-- Full name of the service's type. -/
  typeName : String
  /-- Name among the services of that type; the default one has none. -/
  name : Option String
  deriving DecidableEq, Repr

namespace ServiceKey

/-- The key of the default service of a type. -/
def ofType (typeName : String) : ServiceKey := ⟨typeName, none⟩

/-- The displayed form of a key. -/
def display (key : ServiceKey) : String :=
  match key.name with
  | none => key.typeName
  | some name => key.typeName ++ "[" ++ name ++ "]"

end ServiceKey

/-- Identity of an instance that a factory has built. -/
structure InstanceId where
  /-- Number of instances built before it. -/
  index : Nat
  deriving DecidableEq, Repr

/-- Identity of a resolution scope. -/
structure ScopeId where
  /-- Number of scopes opened before it. -/
  index : Nat
  deriving DecidableEq, Repr

end ServiceDispatch
