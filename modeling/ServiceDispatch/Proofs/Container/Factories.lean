import ServiceDispatch.Proofs.Container.Commands
import ServiceDispatch.Proofs.Container.Plans

/-!
# Factories that end in different ways

A registered factory always asks for the same services, but whether it fails or builds an instance
may be different on every command. While one command is carried out factories follow plans; what is
planned for the next command differs in the endings alone. So what has failed may succeed when it is
tried again, with all that was built before. Within one command a factory ends in one way.
-/

namespace ServiceDispatch

variable {σ : Type}

/-- A registered factory that asks for a fixed list of services, whatever it ends in. -/
structure Factory (σ : Type) where
  /-- How long its instances live. -/
  lifetime : Lifetime
  /-- What it asks for, in order. -/
  needs : List ServiceKey
  /-- How it ends on a command, by the number of commands before that. -/
  ending : Nat → Ending σ

/-- What the factory does on some command. -/
def Factory.plan (factory : Factory σ) (moment : Nat) : Plan σ :=
  ⟨factory.lifetime, factory.needs, factory.ending moment⟩

/-- Factories by key. -/
structure Factories (σ : Type) where
  /-- Factories by key. -/
  entries : Keyed ServiceKey (Factory σ)

namespace Factories

open Container (Command Orderly Keeps)

/-- The factory of a key. -/
def get? (factories : Factories σ) (key : ServiceKey) : Option (Factory σ) :=
  factories.entries.get? key

/-- How long the instances of a key live. -/
def lifetime? (factories : Factories σ) (key : ServiceKey) : Option Lifetime :=
  (factories.get? key).map (·.lifetime)

/-- What factories do on some command. -/
def plans (factories : Factories σ) (moment : Nat) : Plans σ :=
  ⟨factories.entries.map (·.plan moment)⟩

/-- The factory of a service asks for another one. -/
def Needs (factories : Factories σ) (key need : ServiceKey) : Prop :=
  ∃ factory, factories.get? key = some factory ∧ need ∈ factory.needs

/-- No service needs itself, directly or through others. -/
def IsAcyclic (factories : Factories σ) : Prop :=
  ∀ key, ¬ Relation.TransGen factories.Needs key key

/-- Every command is possible when its turn comes. -/
def Admits (factories : Factories σ) (moment : Nat) (container : Container σ) :
    List Command → Prop
  | [] => True
  | command :: rest =>
    command.IsPossible container ∧
      factories.Admits (moment + 1) (command.after (factories.plans moment).services container) rest

instance (factories : Factories σ) (moment : Nat) (container : Container σ)
    (commands : List Command) : Decidable (factories.Admits moment container commands) :=
  decideAdmits moment container commands
where
  decideAdmits (moment : Nat) (container : Container σ) :
      (commands : List Command) → Decidable (factories.Admits moment container commands)
    | [] => inferInstanceAs (Decidable True)
    | command :: rest =>
      have := decideAdmits (moment + 1)
        (command.after (factories.plans moment).services container) rest
      inferInstanceAs (Decidable (_ ∧ _))

/-- What happens on a sequence of commands, some commands having been carried out before. -/
def history (factories : Factories σ) (moment : Nat) (container : Container σ) :
    List Command → List (Occurrence σ)
  | [] => []
  | command :: rest =>
    command.occurrences (factories.plans moment).services container ++
      factories.history (moment + 1) (command.after (factories.plans moment).services container)
        rest

/-- The container after a sequence of commands. -/
def afterAll (factories : Factories σ) (moment : Nat) (container : Container σ) :
    List Command → Container σ
  | [] => container
  | command :: rest =>
    factories.afterAll (moment + 1) (command.after (factories.plans moment).services container) rest

variable (factories : Factories σ) (moment : Nat)

theorem get?_plans (key : ServiceKey) :
    (factories.plans moment).get? key = (factories.get? key).map (·.plan moment) :=
  Keyed.get?_map factories.entries _ key

theorem lifetime?_plans : (factories.plans moment).lifetime? = factories.lifetime? := by
  funext key
  rw [Plans.lifetime?, get?_plans, Option.map_map]
  rfl

theorem needs_plans : (factories.plans moment).Needs = factories.Needs := by
  funext key need
  simp only [Plans.Needs, Needs, get?_plans, Option.map_eq_some_iff, eq_iff_iff]
  constructor
  · rintro ⟨_, ⟨factory, registered, rfl⟩, needed⟩
    exact ⟨factory, registered, needed⟩
  · intro ⟨factory, registered, needed⟩
    exact ⟨_, ⟨factory, registered, rfl⟩, needed⟩

theorem isAcyclic_plans_iff : (factories.plans moment).IsAcyclic ↔ factories.IsAcyclic := by
  rw [Plans.IsAcyclic, needs_plans, IsAcyclic]

variable {factories moment}

/-- Factories without a circle are so on every command. -/
theorem IsAcyclic.plans (acyclic : factories.IsAcyclic) (moment : Nat) :
    (factories.plans moment).IsAcyclic :=
  (isAcyclic_plans_iff factories moment).mpr acyclic

/-- Which services come from factories is the same on every command. -/
theorem isMade_plans {key : ServiceKey} (made : (factories.plans moment).services.IsMade key)
    (other : Nat) : (factories.plans other).services.IsMade key := by
  obtain ⟨lifetime, recipe, registered⟩ := made
  rw [Plans.get?_services, get?_plans, Option.map_map, Option.map_eq_some_iff] at registered
  obtain ⟨factory, registered, -⟩ := registered
  refine ⟨factory.lifetime, (factory.plan other).recipe, ?_⟩
  rw [Plans.get?_services, get?_plans, registered]
  rfl

/-- A container that is in order on one command is so on every other one. -/
theorem orderly_plans {container : Container σ}
    (orderly : Orderly (factories.plans moment).services container) (other : Nat) :
    Orderly (factories.plans other).services container where
  below made held := orderly.below (isMade_plans made moment) held
  apart made made' held held' :=
    orderly.apart (isMade_plans made moment) (isMade_plans made' moment) held held'

/-- Commands keep a container in order. -/
theorem orderly_afterAll {container : Container σ}
    (orderly : Orderly (factories.plans moment).services container) (commands : List Command)
    (other : Nat) :
    Orderly (factories.plans other).services (factories.afterAll moment container commands) := by
  induction commands generalizing moment container with
  | nil => exact orderly_plans orderly other
  | cons command rest ih =>
    have passes := command.passes (factories.plans moment).services container
    exact ih (orderly_plans (passes.moves.orderly orderly) (moment + 1))

/-- Commands keep what lives. -/
theorem keeps_afterAll (factories : Factories σ) (moment : Nat) (container : Container σ)
    (commands : List Command) :
    Keeps container (factories.afterAll moment container commands) := by
  induction commands generalizing moment container with
  | nil => exact Keeps.refl container
  | cons command rest ih =>
    exact (command.passes (factories.plans moment).services container).keeps.trans (ih _ _)

end Factories

end ServiceDispatch
