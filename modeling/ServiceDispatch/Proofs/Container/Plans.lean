import Mathlib.Data.List.Perm.Subperm
import ServiceDispatch.Proofs.Container.History

/-!
# Planned factories

A planned factory asks for a fixed list of services that have to be there, in order, and then fails
or builds a new instance. What a request comes to is told here from the plans and from what its
container holds: it is a success or one failure, the first that is met. Nothing here runs a factory,
and plans may be of any type, whatever their keys say.
-/

namespace ServiceDispatch

variable {σ : Type}

/-- How a factory ends that was given everything it asked for. -/
inductive Ending (σ : Type) where
  /-- It gives up. -/
  | fail (failure : Failure)
  /-- It builds an instance of a type. -/
  | build (typeName : String) (content : σ)

/-- The last step of a recipe. -/
def Ending.recipe : Ending σ → Recipe σ
  | .fail failure => .fail failure
  | .build typeName content => .build typeName content

/-- What a registered factory does: it asks for a fixed list of services, and ends in one way. -/
structure Plan (σ : Type) where
  /-- How long its instances live. -/
  lifetime : Lifetime
  /-- What it asks for, in order. -/
  needs : List ServiceKey
  /-- How it ends. -/
  ending : Ending σ

namespace Plan

/-- What the factory does. -/
def recipe (plan : Plan σ) : Recipe σ :=
  .ofDependencies (plan.needs.map fun key => ⟨key, false⟩) plan.ending.recipe

/-- The registration of the factory. -/
def registration (plan : Plan σ) : Registration σ := ⟨plan.lifetime, .factory plan.recipe⟩

end Plan

/-- Plans by key. -/
structure Plans (σ : Type) where
  /-- Plans by key. -/
  entries : Keyed ServiceKey (Plan σ)

namespace Plans

/-- The plan of a key. -/
def get? (plans : Plans σ) (key : ServiceKey) : Option (Plan σ) := plans.entries.get? key

/-- How long the instances of a key live. -/
def lifetime? (plans : Plans σ) (key : ServiceKey) : Option Lifetime :=
  (plans.get? key).map (·.lifetime)

/-- The registrations of all plans. -/
def services (plans : Plans σ) : Services σ := ⟨plans.entries.map Plan.registration⟩

/-- The factory of a service asks for another one. -/
def Needs (plans : Plans σ) (key need : ServiceKey) : Prop :=
  ∃ plan, plans.get? key = some plan ∧ need ∈ plan.needs

/-- No service needs itself, directly or through others. -/
def IsAcyclic (plans : Plans σ) : Prop := ∀ key, ¬ Relation.TransGen plans.Needs key key

variable {plans : Plans σ} {key : ServiceKey}

theorem get?_services (plans : Plans σ) (key : ServiceKey) :
    plans.services.get? key = (plans.get? key).map Plan.registration :=
  Keyed.get?_map plans.entries Plan.registration key

theorem lifetime?_of_planned {plan : Plan σ} (planned : plans.get? key = some plan) :
    plans.lifetime? key = some plan.lifetime := by
  rw [lifetime?, planned]
  rfl

theorem size_services (plans : Plans σ) : plans.services.size = plans.entries.size := by
  unfold services Services.size Keyed.size Keyed.map
  exact List.length_map _

/-- A key that is found in a list of entries is one of its entries. -/
theorem mem_of_lookup {plan : Plan σ} {entries : List (ServiceKey × Plan σ)}
    (found : Keyed.lookup key entries = some plan) : (key, plan) ∈ entries := by
  induction entries with
  | nil => cases found
  | cons entry rest ih =>
    by_cases here : entry.1 = key
    · rw [Keyed.lookup, if_pos here] at found
      obtain rfl := Option.some.inj found
      rw [← here]
      exact List.mem_cons_self
    · rw [Keyed.lookup, if_neg here] at found
      exact List.mem_cons_of_mem _ (ih found)

/-- Factories that are run for a key nest no deeper than a bound. -/
def NestsWithin (plans : Plans σ) : Nat → ServiceKey → Prop
  | 0, key => plans.get? key = none
  | depth + 1, key => ∀ need, plans.Needs key need → plans.NestsWithin depth need

/-- Below services that need a key and are not needed by it, factories nest no deeper than there are
others left. -/
theorem IsAcyclic.nestsWithin_below (acyclic : plans.IsAcyclic) {depth : Nat}
    {above : List ServiceKey} (distinct : above.Nodup)
    (planned : ∀ other ∈ above, other ∈ plans.entries.keys)
    (leads : ∀ other ∈ above, Relation.TransGen plans.Needs other key)
    (enough : plans.entries.size ≤ above.length + depth) : plans.NestsWithin depth key := by
  induction depth generalizing key above with
  | zero =>
    -- a planned key would be one more than there are
    by_contra registered
    have known : key ∈ plans.entries.keys := by
      rw [Keyed.mem_keys_iff, Keyed.contains, Option.isSome_iff_ne_none]
      exact registered
    have apart : key ∉ above := fun mem => acyclic key (leads key mem)
    have all : (key :: above).Subset plans.entries.keys :=
      List.cons_subset.mpr ⟨known, planned⟩
    have count := (List.subperm_of_subset (List.nodup_cons.mpr ⟨apart, distinct⟩) all).length_le
    rw [List.length_cons, Keyed.keys, List.length_map] at count
    unfold Keyed.size at enough
    omega
  | succ depth ih =>
    intro need needs
    obtain ⟨plan, registered, -⟩ := id needs
    have known : key ∈ plans.entries.keys := by
      rw [Keyed.mem_keys_iff, Keyed.contains, Option.isSome_iff_exists]
      exact ⟨plan, registered⟩
    have apart : key ∉ above := fun mem => acyclic key (leads key mem)
    have longer : (key :: above).Nodup := List.nodup_cons.mpr ⟨apart, distinct⟩
    refine ih longer ?_ ?_ ?_
    · exact List.forall_mem_cons.mpr ⟨known, planned⟩
    · refine List.forall_mem_cons.mpr ⟨.single needs, fun other mem => ?_⟩
      exact (leads other mem).tail needs
    · rw [List.length_cons]
      omega

/-- Without a circle, factories nest no deeper than there are plans. -/
theorem IsAcyclic.nestsWithin (acyclic : plans.IsAcyclic) (key : ServiceKey) :
    plans.NestsWithin plans.services.size key := by
  have none_above : ∀ other ∈ ([] : List ServiceKey), other ∈ plans.entries.keys := nofun
  have enough : plans.entries.size = ([] : List ServiceKey).length + plans.services.size := by
    rw [size_services, List.length_nil, Nat.zero_add]
  exact acyclic.nestsWithin_below List.nodup_nil none_above nofun (Nat.le_of_eq enough)

/-- There is no circle where every service needs only services of lower ranks. -/
theorem isAcyclic_of_rank (rank : ServiceKey → Nat)
    (descends : ∀ entry ∈ plans.entries.entries, ∀ need ∈ entry.2.needs,
      rank need < rank entry.1) : plans.IsAcyclic := by
  have step : ∀ key need, plans.Needs key need → rank need < rank key := by
    rintro key need ⟨plan, planned, needed⟩
    exact descends (key, plan) (mem_of_lookup planned) need needed
  have chain : ∀ {key need}, Relation.TransGen plans.Needs key need → rank need < rank key := by
    intro key need needs
    induction needs with
    | single needs => exact step _ _ needs
    | tail _ needs ih => exact Nat.lt_trans (step _ _ needs) ih
  exact fun key needs => Nat.lt_irrefl _ (chain needs)

/-- What is answered where an instance is not of the type that its key names. -/
def mistyped (key : ServiceKey) : Failure :=
  .serviceResolution key.typeName "registered value has a different type"

variable (plans : Plans σ) (container : Container σ)

/-- A request that succeeds, by what its container holds when it is made. -/
inductive Succeeds : Session → ServiceKey → Prop where
  /-- An instance of the right type is shared already. -/
  | held {session : Session} {key : ServiceKey} {plan : Plan σ} {object : InstanceId}
      (planned : plans.get? key = some plan)
      (held : container.shared? session key plan.lifetime = some object)
      (typed : container.typeOf? object = some key.typeName) : Succeeds session key
  /-- Everything that the factory asks for is answered, and it builds an instance of the right
  type. -/
  | built {session : Session} {key : ServiceKey} {plan : Plan σ} {content : σ}
      (planned : plans.get? key = some plan)
      (free : container.shared? session key plan.lifetime = none)
      (needs : ∀ need ∈ plan.needs, Succeeds (plan.lifetime.builder session) need)
      (ending : plan.ending = .build key.typeName content) : Succeeds session key

/-- A request that fails, and how: with the first failure that is met. -/
inductive Fails : Session → ServiceKey → Failure → Prop where
  /-- The service is not registered. -/
  | missing {session : Session} {key : ServiceKey} (unplanned : plans.get? key = none) :
      Fails session key (.serviceNotRegistered key.typeName key.name)
  /-- What is shared is of another type. -/
  | mistypedHeld {session : Session} {key : ServiceKey} {plan : Plan σ} {object : InstanceId}
      (planned : plans.get? key = some plan)
      (held : container.shared? session key plan.lifetime = some object)
      (other : container.typeOf? object ≠ some key.typeName) : Fails session key (mistyped key)
  /-- The first request of the factory that fails. -/
  | dependency {session : Session} {key need : ServiceKey} {plan : Plan σ}
      {former later : List ServiceKey} {failure : Failure} (planned : plans.get? key = some plan)
      (free : container.shared? session key plan.lifetime = none)
      (order : plan.needs = former ++ need :: later)
      (answered : ∀ earlier ∈ former,
        plans.Succeeds container (plan.lifetime.builder session) earlier)
      (fails : Fails (plan.lifetime.builder session) need failure) : Fails session key failure
  /-- The factory itself, which was given everything. -/
  | own {session : Session} {key : ServiceKey} {plan : Plan σ} {failure : Failure}
      (planned : plans.get? key = some plan)
      (free : container.shared? session key plan.lifetime = none)
      (needs : ∀ need ∈ plan.needs,
        plans.Succeeds container (plan.lifetime.builder session) need)
      (ending : plan.ending = .fail failure) : Fails session key failure
  /-- The factory builds an instance of another type. -/
  | mistypedBuilt {session : Session} {key : ServiceKey} {plan : Plan σ} {typeName : String}
      {content : σ} (planned : plans.get? key = some plan)
      (free : container.shared? session key plan.lifetime = none)
      (needs : ∀ need ∈ plan.needs,
        plans.Succeeds container (plan.lifetime.builder session) need)
      (ending : plan.ending = .build typeName content) (other : typeName ≠ key.typeName) :
      Fails session key (mistyped key)

/-- A request that has to be answered before another one can be: factories that have to be run ask
for it. -/
inductive Consults : Session → ServiceKey → Session → ServiceKey → Prop where
  /-- The request itself. -/
  | here (session : Session) (key : ServiceKey) : Consults session key session key
  /-- What a factory asks for whose instance is not shared already. -/
  | through {session asked : Session} {key need other : ServiceKey} {plan : Plan σ}
      (planned : plans.get? key = some plan)
      (free : container.shared? session key plan.lifetime = none) (needed : need ∈ plan.needs)
      (consults : Consults (plan.lifetime.builder session) need asked other) :
      Consults session key asked other

/-- A request that cannot be answered even if its factory is given everything. -/
inductive IsObstacle (session : Session) (key : ServiceKey) : Prop where
  /-- The service is not registered. -/
  | missing (unplanned : plans.get? key = none) : IsObstacle session key
  /-- What is shared is of another type. -/
  | mistypedHeld {plan : Plan σ} {object : InstanceId} (planned : plans.get? key = some plan)
      (held : container.shared? session key plan.lifetime = some object)
      (other : container.typeOf? object ≠ some key.typeName) : IsObstacle session key
  /-- Its factory has to be run, and fails. -/
  | own {plan : Plan σ} {failure : Failure} (planned : plans.get? key = some plan)
      (free : container.shared? session key plan.lifetime = none)
      (ending : plan.ending = .fail failure) : IsObstacle session key
  /-- Its factory has to be run, and builds an instance of another type. -/
  | mistypedBuilt {plan : Plan σ} {typeName : String} {content : σ}
      (planned : plans.get? key = some plan)
      (free : container.shared? session key plan.lifetime = none)
      (ending : plan.ending = .build typeName content) (other : typeName ≠ key.typeName) :
      IsObstacle session key

variable {plans container} {session : Session}

section

variable {session : Session} {plan : Plan σ} (planned : plans.get? key = some plan)

include planned

/-- A request that finds something shared succeeds if that is of the right type. -/
theorem succeeds_iff_of_held {object : InstanceId}
    (held : container.shared? session key plan.lifetime = some object) :
    plans.Succeeds container session key ↔ container.typeOf? object = some key.typeName := by
  constructor
  · intro succeeds
    cases succeeds with
    | held planned' held' typed =>
      obtain rfl := Option.some.inj (planned.symm.trans planned')
      obtain rfl := Option.some.inj (held.symm.trans held')
      exact typed
    | built planned' free =>
      obtain rfl := Option.some.inj (planned.symm.trans planned')
      rw [held] at free
      contradiction
  · exact Succeeds.held planned held

/-- A request that has to run a factory succeeds if everything that this asks for is answered and it
builds an instance of the right type. -/
theorem succeeds_iff_of_free (free : container.shared? session key plan.lifetime = none) :
    plans.Succeeds container session key ↔
      (∀ need ∈ plan.needs, plans.Succeeds container (plan.lifetime.builder session) need) ∧
        ∃ content, plan.ending = .build key.typeName content := by
  constructor
  · intro succeeds
    cases succeeds with
    | held planned' held =>
      obtain rfl := Option.some.inj (planned.symm.trans planned')
      rw [free] at held
      contradiction
    | built planned' _ needs ending =>
      obtain rfl := Option.some.inj (planned.symm.trans planned')
      exact ⟨needs, _, ending⟩
  · intro ⟨needs, content, ending⟩
    exact .built planned free needs ending

/-- A request that finds something shared fails in one way. -/
theorem Fails.of_held {failure : Failure} {object : InstanceId}
    (fails : plans.Fails container session key failure)
    (held : container.shared? session key plan.lifetime = some object) :
    failure = mistyped key := by
  cases fails with
  | missing unplanned =>
    rw [planned] at unplanned
    contradiction
  | mistypedHeld => rfl
  | dependency planned' free | own planned' free | mistypedBuilt planned' free =>
    obtain rfl := Option.some.inj (planned.symm.trans planned')
    cases held.symm.trans free

/-- A request that has to run a factory fails with the first request of the factory that does, or
with what the factory itself comes to. -/
theorem Fails.of_free {failure : Failure} (fails : plans.Fails container session key failure)
    (free : container.shared? session key plan.lifetime = none) :
    (∃ former need later, plan.needs = former ++ need :: later ∧
        (∀ earlier ∈ former, plans.Succeeds container (plan.lifetime.builder session) earlier) ∧
        plans.Fails container (plan.lifetime.builder session) need failure) ∨
      (∀ need ∈ plan.needs, plans.Succeeds container (plan.lifetime.builder session) need) ∧
        (plan.ending = .fail failure ∨
          ∃ typeName content, plan.ending = .build typeName content ∧ failure = mistyped key) := by
  cases fails with
  | missing unplanned =>
    rw [planned] at unplanned
    contradiction
  | mistypedHeld planned' held =>
    obtain rfl := Option.some.inj (planned.symm.trans planned')
    rw [free] at held
    contradiction
  | dependency planned' _ order answered fails =>
    obtain rfl := Option.some.inj (planned.symm.trans planned')
    exact .inl ⟨_, _, _, order, answered, fails⟩
  | own planned' _ needs ending =>
    obtain rfl := Option.some.inj (planned.symm.trans planned')
    exact .inr ⟨needs, .inl ending⟩
  | mistypedBuilt planned' _ needs ending =>
    obtain rfl := Option.some.inj (planned.symm.trans planned')
    exact .inr ⟨needs, .inr ⟨_, _, ending, rfl⟩⟩

end

theorem not_succeeds_of_missing {session : Session} (unplanned : plans.get? key = none) :
    ¬ plans.Succeeds container session key := by
  intro succeeds
  cases succeeds with
  | held planned | built planned =>
    rw [unplanned] at planned
    contradiction

variable {session : Session} {failure : Failure}

/-- No request both succeeds and fails. -/
theorem Fails.not_succeeds (fails : plans.Fails container session key failure) :
    ¬ plans.Succeeds container session key := by
  induction fails with
  | missing unplanned => exact not_succeeds_of_missing unplanned
  | mistypedHeld planned held other =>
    rw [succeeds_iff_of_held planned held]
    exact other
  | @dependency session key need plan former later failure planned free order answered fails ih =>
    rw [succeeds_iff_of_free planned free]
    intro ⟨needs, _⟩
    have listed : need ∈ plan.needs := by
      rw [order]
      exact List.mem_append_right _ List.mem_cons_self
    exact ih (needs need listed)
  | own planned free needs ending =>
    rw [succeeds_iff_of_free planned free]
    intro ⟨_, content, builds⟩
    rw [ending] at builds
    contradiction
  | mistypedBuilt planned free needs ending other =>
    rw [succeeds_iff_of_free planned free]
    intro ⟨_, content, builds⟩
    rw [ending] at builds
    exact other (Ending.build.inj builds).1

/-- A list has one first element that differs from those before it. -/
theorem eq_of_first {α : Type} {good : α → Prop} {former former' later later' : List α}
    {first first' : α} (same : former ++ first :: later = former' ++ first' :: later')
    (before : ∀ other ∈ former, good other) (before' : ∀ other ∈ former', good other)
    (bad : ¬ good first) (bad' : ¬ good first') : first = first' := by
  induction former generalizing former' with
  | nil =>
    cases former' with
    | nil => exact List.head_eq_of_cons_eq same
    | cons other rest =>
      have here : first = other := List.head_eq_of_cons_eq same
      exact absurd (before' other List.mem_cons_self) (here ▸ bad)
  | cons other rest ih =>
    cases former' with
    | nil =>
      have here : other = first' := List.head_eq_of_cons_eq same
      exact absurd (before other List.mem_cons_self) (here ▸ bad')
    | cons other' rest' =>
      exact ih (List.tail_eq_of_cons_eq same)
        (fun element mem => before element (List.mem_cons_of_mem _ mem))
        (fun element mem => before' element (List.mem_cons_of_mem _ mem))

/-- A factory whose requests all succeed has none that fails. -/
theorem Fails.not_all_succeed {needs former later : List ServiceKey} {need : ServiceKey}
    (fails : plans.Fails container session need failure)
    (order : needs = former ++ need :: later) :
    ¬ ∀ need ∈ needs, plans.Succeeds container session need := by
  intro all
  refine fails.not_succeeds (all need ?_)
  rw [order]
  exact List.mem_append_right _ List.mem_cons_self

/-- A request fails in one way. -/
theorem Fails.unique (fails : plans.Fails container session key failure) {failure' : Failure}
    (fails' : plans.Fails container session key failure') : failure = failure' := by
  induction fails with
  | missing unplanned =>
    cases fails' with
    | missing => rfl
    | mistypedHeld planned | dependency planned | own planned | mistypedBuilt planned =>
      rw [unplanned] at planned
      contradiction
  | mistypedHeld planned held other => exact (fails'.of_held planned held).symm
  | dependency planned free order answered fails ih =>
    obtain ⟨former', need', later', order', answered', fails'⟩ | ⟨needs, _⟩ :=
      fails'.of_free planned free
    · obtain rfl := eq_of_first (order.symm.trans order') answered answered' fails.not_succeeds
        fails'.not_succeeds
      exact ih fails'
    · exact absurd needs (fails.not_all_succeed order)
  | own planned free needs ending =>
    obtain ⟨_, _, _, order, _, fails⟩ | ⟨_, ending' | ⟨_, _, ending', _⟩⟩ :=
      fails'.of_free planned free
    · exact absurd needs (fails.not_all_succeed order)
    · exact Ending.fail.inj (ending.symm.trans ending')
    · rw [ending] at ending'
      contradiction
  | mistypedBuilt planned free needs ending other =>
    obtain ⟨_, _, _, order, _, fails⟩ | ⟨_, ending' | ⟨_, _, _, same⟩⟩ :=
      fails'.of_free planned free
    · exact absurd needs (fails.not_all_succeed order)
    · rw [ending] at ending'
      contradiction
    · exact same.symm

variable {asked : Session} {other : ServiceKey}

/-- What has to be answered before a request that succeeds succeeds as well. -/
theorem Consults.succeeds (consults : plans.Consults container session key asked other)
    (succeeds : plans.Succeeds container session key) :
    plans.Succeeds container asked other := by
  induction consults with
  | here => exact succeeds
  | through planned free needed _ ih =>
    exact ih (((succeeds_iff_of_free planned free).mp succeeds).1 _ needed)

/-- A request that succeeds is no obstacle. -/
theorem Succeeds.not_isObstacle (succeeds : plans.Succeeds container session key) :
    ¬ plans.IsObstacle container session key := by
  intro obstacle
  cases obstacle with
  | missing unplanned => exact not_succeeds_of_missing unplanned succeeds
  | mistypedHeld planned held other =>
    exact other ((succeeds_iff_of_held planned held).mp succeeds)
  | own planned free ending =>
    obtain ⟨_, content, builds⟩ := (succeeds_iff_of_free planned free).mp succeeds
    rw [ending] at builds
    contradiction
  | mistypedBuilt planned free ending other =>
    obtain ⟨_, content, builds⟩ := (succeeds_iff_of_free planned free).mp succeeds
    rw [ending] at builds
    exact other (Ending.build.inj builds).1

/-- A request that fails meets an obstacle. -/
theorem Fails.exists_obstacle (fails : plans.Fails container session key failure) :
    ∃ asked other, plans.Consults container session key asked other ∧
      plans.IsObstacle container asked other := by
  induction fails with
  | missing unplanned => exact ⟨_, _, .here _ _, .missing unplanned⟩
  | mistypedHeld planned held other => exact ⟨_, _, .here _ _, .mistypedHeld planned held other⟩
  | dependency planned free order answered fails ih =>
    obtain ⟨asked, other, consults, obstacle⟩ := ih
    refine ⟨asked, other, .through planned free ?_ consults, obstacle⟩
    rw [order]
    exact List.mem_append_right _ List.mem_cons_self
  | own planned free needs ending => exact ⟨_, _, .here _ _, .own planned free ending⟩
  | mistypedBuilt planned free needs ending other =>
    exact ⟨_, _, .here _ _, .mistypedBuilt planned free ending other⟩

end Plans

end ServiceDispatch
