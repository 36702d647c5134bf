import ServiceDispatch.CanonicalKey
import ServiceDispatch.Event
import ServiceDispatch.Failure
import ServiceDispatch.Keyed
import ServiceDispatch.Text.Record

/-!
# Registry of adapters

Maps keys to invocation adapters. It is filled at start-up, where a later registration replaces an
earlier one and is remembered as a collision; once sealed it answers from a copy that never changes.
The operations are pure: what each of them reports is a function beside it.
-/

namespace ServiceDispatch

/-- Whether a registration took a free key. -/
inductive Registered where
  /-- The key was free. -/
  | inserted
  /-- An earlier adapter was replaced. -/
  | replaced
  deriving DecidableEq, Repr

/-- Adapters by key, over any kind of adapter. -/
structure Registry (α : Type) where
  /-- The adapter registered last under each key. -/
  staging : Keyed String α
  /-- How often each key was registered again, in order of the first collisions. -/
  repeated : Keyed String Nat
  /-- Whether sealing has begun, after which nothing can be registered. -/
  sealing : Bool
  /-- The adapters at the time of sealing, once that is done. -/
  snapshot : Option (Keyed String α)

namespace Registry

variable {α : Type}

/-- The registry without adapters. -/
def empty : Registry α := ⟨.empty, .empty, false, none⟩

/-- Whether registrations have come to an end. -/
def isSealed (registry : Registry α) : Bool := registry.snapshot.isSome

/-- The adapters that queries answer from: those of the sealing, or else those staged so far. -/
def adapters (registry : Registry α) : Keyed String α := registry.snapshot.getD registry.staging

/-- The registry with another kind of adapter under each key. -/
def map {β : Type} (registry : Registry α) (change : α → β) : Registry β :=
  { registry with
    staging := registry.staging.map change
    snapshot := registry.snapshot.map (·.map change) }

/-- Number of adapters. -/
def size (registry : Registry α) : Nat := registry.adapters.size

/-- Whether a key has an adapter. -/
def contains (registry : Registry α) (key : String) : Bool := registry.adapters.contains key

/-- Keys with an adapter, in rising order. -/
def keys (registry : Registry α) : List String := sortedTexts registry.adapters.keys

/-- Keys registered more than once, in rising order. -/
def collisions (registry : Registry α) : List String := sortedTexts registry.repeated.keys

/-- Counts one more repeated registration of a key. -/
def recordCollision (registry : Registry α) (key : String) : Keyed String Nat :=
  registry.repeated.insert key ((registry.repeated.get? key).getD 0 + 1)

/-- Puts an adapter under a key, in place of an earlier one. -/
def put (registry : Registry α) (key : String) (adapter : α) : Registry α :=
  { registry with
    staging := registry.staging.insert key adapter
    repeated :=
      if registry.staging.contains key then registry.recordCollision key
      else registry.repeated }

/-- Registers an adapter unless sealing has begun. -/
def register (registry : Registry α) (key : CanonicalKey) (adapter : α) :
    Except Failure Registered × Registry α :=
  if registry.sealing then (.error (.registrySealed key.text), registry)
  else
    (.ok (if registry.staging.contains key.text then .replaced else .inserted),
      registry.put key.text adapter)

/-- What a registration reports. -/
def registerEvents (registry : Registry α) (key : CanonicalKey) : List Event :=
  if registry.sealing then []
  else if registry.staging.contains key.text then [.adapterReplaced key.text]
  else [.adapterRegistered key.text]

/-- The key that keeps a registry from being sealed when collisions are rejected. -/
def obstacle? (registry : Registry α) (rejectCollisions : Bool) : Option String :=
  if rejectCollisions then registry.collisions.head? else none

/-- Ends the registrations. With `rejectCollisions` a key that was registered twice is a failure,
and the registry stays open. -/
def trySeal (registry : Registry α) (rejectCollisions : Bool) : Except Failure Unit × Registry α :=
  if registry.isSealed then (.ok (), registry)
  else if registry.sealing then
    (.error (.internal "invocation registry is already being sealed"), registry)
  else
    let begun := { registry with sealing := true }
    match begun.obstacle? rejectCollisions with
    | some key => (.error (.registryCollision key), { begun with sealing := false })
    | none => (.ok (), { begun with snapshot := some begun.staging })

/-- What sealing reports. -/
def sealEvents (registry : Registry α) (rejectCollisions : Bool) : List Event :=
  if registry.isSealed || registry.sealing then []
  else
    match registry.obstacle? rejectCollisions with
    | some key => [.adaptersCollide key]
    | none => [.registrySealed registry.staging.size]

/-- The adapter of a key. -/
def lookup (registry : Registry α) (key : String) : Except Failure α :=
  match registry.adapters.get? key with
  | some adapter => .ok adapter
  | none => .error (.registryMiss key)

/-- What a look-up reports. -/
def lookupEvents (registry : Registry α) (key : String) : List Event :=
  if registry.contains key then [] else [.adapterMissing key]

/-- A registry in which the given adapters were registered in order. -/
def ofEntries (entries : List (CanonicalKey × α)) : Registry α :=
  entries.foldl (fun registry entry => (registry.register entry.1 entry.2).2) empty

/-- What that reports. -/
def entryEvents (entries : List (CanonicalKey × α)) : List Event :=
  let register (state : Registry α × List Event) (entry : CanonicalKey × α) :=
    ((state.1.register entry.1 entry.2).2, state.2 ++ state.1.registerEvents entry.1)
  (entries.foldl register (empty, [])).2 ++ [.adaptersStaged entries.length]

/-- What can be done with a registry. -/
inductive Command (α : Type) where
  /-- Registers an adapter. -/
  | register (key : CanonicalKey) (adapter : α)
  /-- Ends the registrations. -/
  | trySeal (rejectCollisions : Bool)
  /-- Asks for the adapter of a key. -/
  | lookup (key : String)
  /-- Asks whether a key has an adapter. -/
  | contains (key : String)
  /-- Asks for the number of adapters. -/
  | size
  /-- Asks for the keys. -/
  | keys
  /-- Asks for the keys that were registered more than once. -/
  | collisions

/-- What a registry answers. -/
inductive Answer (α : Type) where
  /-- An adapter was registered. -/
  | registered (how : Registered)
  /-- The registry is sealed. -/
  | done
  /-- The adapter asked for. -/
  | adapter (adapter : α)
  /-- Whether it is so. -/
  | flag (b : Bool)
  /-- How many there are. -/
  | count (n : Nat)
  /-- Keys. -/
  | texts (keys : List String)

/-- Carries a command out. -/
def execute (registry : Registry α) : Command α → Except Failure (Answer α) × Registry α
  | .register key adapter =>
    let (result, next) := registry.register key adapter
    (result.map .registered, next)
  | .trySeal rejectCollisions =>
    let (result, next) := registry.trySeal rejectCollisions
    (result.map fun _ => .done, next)
  | .lookup key => ((registry.lookup key).map .adapter, registry)
  | .contains key => (.ok (.flag (registry.contains key)), registry)
  | .size => (.ok (.count registry.size), registry)
  | .keys => (.ok (.texts registry.keys), registry)
  | .collisions => (.ok (.texts registry.collisions), registry)

/-- Carries commands out in order and answers each of them. -/
def executeAll (registry : Registry α) :
    List (Command α) → List (Except Failure (Answer α)) × Registry α
  | [] => ([], registry)
  | command :: rest =>
    let (answer, next) := registry.execute command
    let (answers, last) := next.executeAll rest
    (answer :: answers, last)

/-- What a command reports. -/
def commandEvents (registry : Registry α) : Command α → List Event
  | .register key _ => registry.registerEvents key
  | .trySeal rejectCollisions => registry.sealEvents rejectCollisions
  | .lookup key => registry.lookupEvents key
  | .contains _ | .size | .keys | .collisions => []

/-- The displayed form of a registry. -/
def display (registry : Registry α) : String :=
  Text.record "InvocationRegistry"
    [("sealed", Text.truth registry.isSealed), ("adapters", toString registry.size)] false

end Registry

/-- The displayed form of a linked adapter: the operation it is for. -/
def Signature.displayEntry (signature : Signature) : String :=
  Text.record "InvocationAdapterEntry"
    [("declaring_type", Text.quote signature.declaringType),
     ("method", Text.quote signature.method)] true

/-- Whether a pair of texts comes before another one. -/
def precedes (first second : String × String) : Bool :=
  decide (first.1 < second.1) || (first.1 == second.1 && decide (first.2 < second.2))

/-- Linked operations with the contracts that declare them, in rising order of their keys. -/
def listLinked (signatures : List Signature) : List (String × String) :=
  (signatures.map fun signature => (signature.key.text, signature.declaringType)).mergeSort
    fun first second => !precedes second first

end ServiceDispatch
