import ServiceDispatch.Service.Retention
import ServiceDispatch.Value

/-!
# Registering sample services

How the sample services are registered: with factories that ask for other services, that fail, or
that build something else than they should. Services without behaviour have types with numbers and
tell their instances apart by numbers, from one in the order in which they were built.
-/

namespace ServiceDispatch.Sample

/-- The type of texts, which no numbered service has. -/
def textType : String := ValueType.string.typeName

/-- How a sample service is registered. -/
structure ServiceSpec (σ : Type) where
  /-- Its key. -/
  key : ServiceKey
  /-- Its lifetime. -/
  lifetime : Lifetime
  /-- What its instances start with. -/
  content : σ
  /-- The services that its factory asks for. -/
  dependencies : List Dependency
  /-- What its factory fails with, if it is to fail. -/
  failure : Option String
  /-- Whether its factory builds a text instead. -/
  misplaced : Bool
  /-- Whether an instance is built at once and handed in, in place of a factory. -/
  ready : Bool

namespace ServiceSpec

variable {σ : Type}

/-- The factory of a service. -/
def recipe (spec : ServiceSpec σ) : Recipe σ :=
  if spec.misplaced then .build textType spec.content
  else
    .ofDependencies spec.dependencies (match spec.failure with
      | some message => .fail (.internal message)
      | none => .build spec.key.typeName spec.content)

/-- Registers a service after others. -/
def register (state : List (ServiceKey × Registration σ) × Container σ) (spec : ServiceSpec σ) :
    List (ServiceKey × Registration σ) × Container σ :=
  if spec.ready then
    let (object, container) := state.2.allocate ⟨spec.key.typeName, [], spec.content⟩
    (state.1 ++ [(spec.key, ⟨.singleton, .existing object⟩)], container)
  else (state.1 ++ [(spec.key, ⟨spec.lifetime, .factory spec.recipe⟩)], state.2)

/-- Registers services in order; the container holds those that were built on the way. -/
def registerAll (specs : List (ServiceSpec σ)) :
    List (ServiceKey × Registration σ) × Container σ :=
  specs.foldl register ([], .empty)

end ServiceSpec

/-- The type of numbered services with a number. -/
def numberedType (number : Nat) : String := "driver::container::Svc<" ++ toString number ++ ">"

/-- Whether an instance is one of a numbered service. -/
def isNumbered (built : Instance Unit) : Bool := built.typeName != textType

/-- The number of an instance. -/
def numberOf (container : Container Unit) (id : InstanceId) : Nat :=
  container.ordinal isNumbered id

/-- The numbers of the instances that have one. -/
def numbersOf (container : Container Unit) (ids : List InstanceId) : List Nat :=
  (ids.filter fun id => ((container.instance? id).map isNumbered).getD false).map
    (numberOf container)

/-- The numbers of what an instance was built with, in the order in which its factory asked. -/
def dependencyNumbers (container : Container Unit) (id : InstanceId) : List (Option Nat) :=
  (((container.instance? id).map Instance.dependencies).getD []).map fun found =>
    found.map (numberOf container)

end ServiceDispatch.Sample
