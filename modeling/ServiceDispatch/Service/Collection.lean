import ServiceDispatch.Event
import ServiceDispatch.Keyed
import ServiceDispatch.Service.Recipe
import ServiceDispatch.Text.Record

/-!
# Service collections

What is registered: for each key how long instances live and where they come from. A later
registration of a key replaces the earlier one.
-/

namespace ServiceDispatch

/-- Where the instances of a registration come from. -/
inductive Supply (σ : Type) where
  /-- One that exists already. -/
  | existing (object : InstanceId)
  /-- Built by a factory. -/
  | factory (recipe : Recipe σ)

/-- One registration. -/
structure Registration (σ : Type) where
  /-- How long instances live. -/
  lifetime : Lifetime
  /-- Where they come from. -/
  supply : Supply σ

/-- Registrations by key. -/
structure Services (σ : Type) where
  /-- Registrations by key. -/
  registrations : Keyed ServiceKey (Registration σ)

namespace Services

variable {σ : Type}

/-- Nothing registered. -/
def empty : Services σ := ⟨.empty⟩

/-- Registers a service, in place of an earlier registration of its key. -/
def add (services : Services σ) (key : ServiceKey) (lifetime : Lifetime) (supply : Supply σ) :
    Services σ :=
  ⟨services.registrations.insert key ⟨lifetime, supply⟩⟩

/-- Registers services in order. -/
def ofEntries (entries : List (ServiceKey × Registration σ)) : Services σ :=
  entries.foldl (fun services entry => services.add entry.1 entry.2.lifetime entry.2.supply) empty

/-- What that reports. -/
def entryEvents (entries : List (ServiceKey × Registration σ)) : List Event :=
  entries.map fun entry => .serviceRegistered entry.1 entry.2.lifetime

/-- The registration of a key. -/
def get? (services : Services σ) (key : ServiceKey) : Option (Registration σ) :=
  services.registrations.get? key

/-- Whether a key is registered. -/
def contains (services : Services σ) (key : ServiceKey) : Bool :=
  services.registrations.contains key

/-- The lifetime registered for a key. -/
def lifetime? (services : Services σ) (key : ServiceKey) : Option Lifetime :=
  (services.get? key).map (·.lifetime)

/-- Number of registrations. -/
def size (services : Services σ) : Nat := services.registrations.size

/-- What building a container over the registrations reports. -/
def buildEvent (services : Services σ) : Event := .containerBuilt services.size

/-- The displayed form of a collection. -/
def display (services : Services σ) : String :=
  Text.record "ServiceCollection"
    [("registrations", Text.listing (services.registrations.keys.map ServiceKey.display))] false

end Services

end ServiceDispatch
