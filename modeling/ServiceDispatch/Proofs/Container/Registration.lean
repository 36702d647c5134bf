import Mathlib.Data.List.Induction
import ServiceDispatch.Proofs.Service.Order
import ServiceDispatch.Sample.Registration

/-!
# Containers that are set up

What a container has before anything is asked of it: instances that were handed in ready-made, each
of which is registered as a singleton. Every way of registering sample services sets a container up.
-/

namespace ServiceDispatch

namespace Services

variable {σ : Type} {services : Services σ} {key : ServiceKey} {registration : Registration σ}

/-- What was handed in ready-made is shared by all sessions. -/
def AdoptsSingletons (services : Services σ) : Prop :=
  ∀ {key lifetime object}, services.get? key = some ⟨lifetime, .existing object⟩ →
    lifetime = .singleton

theorem get?_add (services : Services σ) (key query : ServiceKey) (lifetime : Lifetime)
    (supply : Supply σ) :
    (services.add key lifetime supply).get? query =
      if key = query then some ⟨lifetime, supply⟩ else services.get? query :=
  Keyed.get?_insert _ _ _ _

/-- What is registered is one of the entries. -/
theorem mem_of_get?_ofEntries {entries : List (ServiceKey × Registration σ)}
    (found : (ofEntries entries).get? key = some registration) : (key, registration) ∈ entries := by
  induction entries using List.reverseRecOn with
  | nil => cases found
  | append_singleton entries entry ih =>
    rw [ofEntries, List.foldl_append] at found
    change ((ofEntries entries).add _ _ _).get? key = _ at found
    rw [get?_add] at found
    split at found
    · rename_i here
      obtain rfl := Option.some.inj found
      exact List.mem_append_right _ (List.mem_singleton.mpr (by rw [← here]))
    · exact List.mem_append_left _ (ih found)

end Services

/-- Nothing was asked of a container yet. What was handed in exists, and needs nothing else. -/
structure Container.IsSetUp {σ : Type} (services : Services σ) (container : Container σ) : Prop
    extends container.IsUnused where
  /-- What was handed in is shared by all sessions. -/
  adopts : services.AdoptsSingletons
  /-- It exists. -/
  existing : ∀ {key lifetime object}, services.get? key = some ⟨lifetime, .existing object⟩ →
    object.index < container.instances.length
  /-- It depends only on what exists. -/
  complete : ∀ built ∈ container.instances, ∀ object, some object ∈ built.dependencies →
    object.index < container.instances.length

namespace Sample.ServiceSpec

variable {σ : Type}

/-- What holds after some services were registered. -/
structure Registers (state : List (ServiceKey × Registration σ) × Container σ) : Prop where
  /-- Nothing was asked of the container. -/
  unused : state.2.IsUnused
  /-- What was handed in is a singleton, and exists. -/
  existing : ∀ entry ∈ state.1, ∀ object, entry.2.supply = .existing object →
    entry.2.lifetime = .singleton ∧ object.index < state.2.instances.length
  /-- It needs nothing. -/
  complete : ∀ built ∈ state.2.instances, built.dependencies = []

theorem Registers.register {state : List (ServiceKey × Registration σ) × Container σ}
    (registers : Registers state) (spec : ServiceSpec σ) : Registers (spec.register state) := by
  rw [ServiceSpec.register]
  split
  · refine ⟨⟨registers.unused.singletons, registers.unused.rootScoped, registers.unused.scopes⟩,
      fun entry mem object supply => ?_, fun built mem => ?_⟩
    · obtain former | here := List.mem_append.mp mem
      · obtain ⟨lifetime, there⟩ := registers.existing entry former object supply
        exact ⟨lifetime, Nat.lt_of_lt_of_le there (by simp [Container.allocate])⟩
      · obtain rfl := List.mem_singleton.mp here
        cases supply
        exact ⟨rfl, by simp [Container.allocate]⟩
    · obtain former | here := List.mem_append.mp mem
      · exact registers.complete built former
      · obtain rfl := List.mem_singleton.mp here
        rfl
  · refine ⟨registers.unused, fun entry mem object supply => ?_, registers.complete⟩
    obtain former | here := List.mem_append.mp mem
    · exact registers.existing entry former object supply
    · obtain rfl := List.mem_singleton.mp here
      cases supply

theorem registers_registerAll (specs : List (ServiceSpec σ)) : Registers (registerAll specs) := by
  have start : Registers (([], .empty) : List (ServiceKey × Registration σ) × Container σ) :=
    ⟨⟨rfl, rfl, rfl⟩, fun _ mem => (nomatch mem), fun _ mem => (nomatch mem)⟩
  exact List.foldlRecOn specs _ start fun _ registers spec _ => registers.register spec

/-- Registering services sets a container up. -/
theorem isSetUp_registerAll (specs : List (ServiceSpec σ)) :
    (registerAll specs).2.IsSetUp (.ofEntries (registerAll specs).1) := by
  have registers := registers_registerAll specs
  refine ⟨registers.unused, fun found => ?_, fun found => ?_, fun built mem object needs => ?_⟩
  · exact (registers.existing _ (Services.mem_of_get?_ofEntries found) _ rfl).1
  · exact (registers.existing _ (Services.mem_of_get?_ofEntries found) _ rfl).2
  · rw [registers.complete built mem] at needs
    cases needs

end Sample.ServiceSpec

namespace Sample.Interwoven

/-- The key of a numbered service. -/
def key (number : Nat) : ServiceKey := .ofType (numberedType number)

/-- A numbered service that needs others. -/
def spec (number : Nat) (lifetime : Lifetime) (needs : List Nat) (ready : Bool) :
    ServiceSpec Unit where
  key := key number
  lifetime := lifetime
  content := ()
  dependencies := needs.map fun other => ⟨key other, false⟩
  failure := none
  misplaced := false
  ready := ready

/-- A service that is handed in, a scoped one that needs it, a singleton that needs the scoped one,
and a transient one that needs both. -/
def specs : List (ServiceSpec Unit) :=
  [spec 0 .singleton [] true, spec 1 .scoped [0] false, spec 2 .singleton [1] false,
    spec 3 .transient [1, 2] false]

/-- The registrations. -/
def services : Services Unit := .ofEntries (ServiceSpec.registerAll specs).1

/-- The container over them. -/
def container : Container Unit := (ServiceSpec.registerAll specs).2

theorem isSetUp : container.IsSetUp services := ServiceSpec.isSetUp_registerAll specs

end Sample.Interwoven

end ServiceDispatch
