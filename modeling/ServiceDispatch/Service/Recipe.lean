import ServiceDispatch.Failure
import ServiceDispatch.Service.Key

/-!
# Recipes

What a factory does, as data: it asks its session for services one after another, and then fails or
builds a new instance. A recipe sees whether a service was found but not which instance it was, so
its course does not depend on what happens to be cached.
-/

namespace ServiceDispatch

/-- The steps of a factory, over any kind of instance content. -/
inductive Recipe (σ : Type) where
  /-- Gives up. -/
  | fail (failure : Failure)
  /-- Builds an instance of a type, which keeps every service that the factory was given. -/
  | build (typeName : String) (content : σ)
  /-- Asks for a service and goes on with the answer: a failure, or whether it is registered. -/
  | ask (key : ServiceKey) (next : Except Failure Bool → Recipe σ)

namespace Recipe

variable {σ : Type}

/-- Asks for a service; a failure ends the recipe. -/
def find (key : ServiceKey) (next : Recipe σ) : Recipe σ :=
  ask key fun
    | .error failure => fail failure
    | .ok _ => next

/-- Asks for a service that has to be there. -/
def require (key : ServiceKey) (next : Recipe σ) : Recipe σ :=
  ask key fun
    | .error failure => fail failure
    | .ok true => next
    | .ok false => fail (.serviceNotRegistered key.typeName key.name)

end Recipe

/-- A service that a factory asks for. -/
structure Dependency where
  /-- Its key. -/
  key : ServiceKey
  /-- Whether the factory can do without it. -/
  isOptional : Bool
  deriving DecidableEq, Repr

/-- Asks for a list of services in order and goes on as given. -/
def Recipe.ofDependencies {σ : Type} (dependencies : List Dependency) (last : Recipe σ) :
    Recipe σ :=
  dependencies.foldr (fun dependency rest =>
    if dependency.isOptional then find dependency.key rest else require dependency.key rest) last

end ServiceDispatch
