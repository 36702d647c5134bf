import ServiceDispatch.Proofs.Call.Scopes
import ServiceDispatch.Proofs.Service.Order

/-!
# What becomes of cached instances

Everything that is done with a container while calls are served, as moves: steps of resolutions,
reports, changes of contents, and opening and releasing scopes. Whatever is done, an instance that a
scope shares is shared by that scope until the scope is released, and is in no cache from then on.
Instances that were handed in ready-made are not covered.
-/

namespace ServiceDispatch

variable {σ ε α : Type} {services : Services σ}

namespace Container

variable {before middle after container : Container σ} {key : ServiceKey} {object : InstanceId}
  {id : ScopeId}

/-- A new scope shares nothing, as if it were not there. -/
@[simp] theorem cache_openScope (container : Container σ) (name : CacheName) :
    container.openScope.2.cache name = container.cache name := by
  match name with
  | .singletons | .session .root => rfl
  | .session (.scope id) =>
    have added : container.openScope.2.scopes = container.scopes ++ [⟨.empty, true⟩] := rfl
    rw [cache, cache, scope?, scope?, added, List.getElem?_append]
    split
    · rfl
    · rename_i outside
      rw [List.getElem?_eq_none (Nat.le_of_not_lt outside)]
      cases id.index - container.scopes.length <;> rfl

/-- Neither does one that is not there yet. -/
theorem cache_nextScope (container : Container σ) :
    container.cache (.session (.scope container.nextScope)) = .empty := by
  have missing : container.scopes[container.nextScope.index]? = none :=
    List.getElem?_eq_none (Nat.le_refl _)
  rw [cache, scope?, missing]
  rfl

/-- A released scope shares nothing any more, and no other cache changes. -/
theorem cache_releaseScope (container : Container σ) (id : ScopeId) (name : CacheName) :
    (container.releaseScope id).cache name =
      if name = .session (.scope id) then .empty else container.cache name := by
  match name with
  | .singletons | .session .root => rfl
  | .session (.scope other) =>
    have cleared : (container.releaseScope id).scopes =
        container.scopes.set id.index ⟨.empty, false⟩ := rfl
    rw [cache, cache, scope?, scope?, cleared, List.getElem?_set]
    by_cases same : other = id
    · subst same
      rw [if_pos rfl, if_pos rfl]
      split <;> rfl
    · have apart : id.index ≠ other.index := fun equal => same (congrArg ScopeId.mk equal.symm)
      rw [if_neg apart, if_neg (by simpa using same)]

/-- One thing that is done with a container while calls are served. -/
inductive Move (services : Services σ) : Container σ → Container σ → Prop where
  /-- A step of a resolution, in any session. -/
  | step {session : Session} {before after : Container σ}
      (step : Step services session before after) : Move services before after
  /-- Something is reported, or reports are taken. -/
  | relog (container : Container σ) (log : List Event) :
      Move services container { container with log }
  /-- An instance is built that the container does not share. -/
  | build (container : Container σ) (built : Instance σ) :
      Move services container (container.allocate built).2
  /-- The state of an instance changes. -/
  | change (container : Container σ) (object : InstanceId) (change : σ → σ) :
      Move services container (container.modifyContent object change)
  /-- A scope is opened. -/
  | openScope (container : Container σ) : Move services container container.openScope.2
  /-- A scope is released. -/
  | releaseScope (container : Container σ) (id : ScopeId) :
      Move services container (container.releaseScope id)

/-- A container becomes another one by moves. -/
def Moves (services : Services σ) : Container σ → Container σ → Prop :=
  Relation.ReflTransGen (Move services)

theorem Moves.refl (container : Container σ) : Moves services container container :=
  Relation.ReflTransGen.refl

theorem Moves.trans (first : Moves services before middle) (second : Moves services middle after) :
    Moves services before after :=
  Relation.ReflTransGen.trans first second

theorem Move.moves (move : Move services before after) : Moves services before after :=
  Relation.ReflTransGen.single move

theorem Moves.relog (moves : Moves services before after) {log : List Event} :
    Moves services before { after with log } :=
  moves.tail (.relog after log)

theorem Moves.report (moves : Moves services before after) (event : Event) :
    Moves services before (after.report event) :=
  moves.relog

theorem Moves.releaseScope (moves : Moves services before after) (id : ScopeId) :
    Moves services before (after.releaseScope id) :=
  moves.tail (.releaseScope after id)

theorem Reaches.moves {session : Session} (reaches : Reaches services session before after) :
    Moves services before after := by
  induction reaches with
  | refl => exact Moves.refl before
  | tail _ step ih => exact ih.tail (.step step)

/-- What no move takes back. -/
structure Later (before after : Container σ) : Prop where
  /-- Instances are not removed. -/
  instances : before.instances.length ≤ after.instances.length
  /-- Neither are scopes. -/
  scopes : before.openness.length ≤ after.openness.length
  /-- No scope is opened again. -/
  closed : ∀ {place : Nat}, before.openness[place]? = some false →
    after.openness[place]? = some false
  /-- What the container itself shares stays shared. -/
  root : ∀ {key object}, (before.cache (.session .root)).get? key = some object →
    (after.cache (.session .root)).get? key = some object

theorem Later.trans (first : Later before middle) (second : Later middle after) :
    Later before after :=
  ⟨Nat.le_trans first.instances second.instances, Nat.le_trans first.scopes second.scopes,
    fun closed => second.closed (first.closed closed),
    fun held => second.root (first.root held)⟩

theorem Move.later (move : Move services before after) : Later before after := by
  cases move with
  | step step =>
    have grows := step.grows
    have same : after.openness = before.openness := grows.scopes
    refine ⟨grows.instances.length_le, Nat.le_of_eq (congrArg List.length same.symm), ?_,
      grows.retains⟩
    intro place closed
    rw [same]
    exact closed
  | relog container log => exact ⟨Nat.le_refl _, Nat.le_refl _, id, id⟩
  | build container built =>
    have longer : before.instances.length ≤ (before.allocate built).2.instances.length := by
      simp [allocate]
    exact ⟨longer, Nat.le_refl _, id, id⟩
  | change container object change =>
    have same : (before.modifyContent object change).instances.length =
        before.instances.length := List.length_modify _ _ _
    exact ⟨Nat.le_of_eq same.symm, Nat.le_refl _, id, id⟩
  | openScope container =>
    have added := (Opens.openScope before).openness
    refine ⟨Nat.le_refl _, ?_, fun {place} closed => ?_, id⟩
    · rw [added, List.length_append]
      exact Nat.le_add_right _ _
    · have there : place < before.openness.length := (List.getElem?_eq_some_iff.mp closed).1
      rw [added, List.getElem?_append_left there]
      exact closed
  | releaseScope container id =>
    have cleared : (before.releaseScope id).openness = before.openness.set id.index false :=
      openness_releaseScope before id
    have same : (before.releaseScope id).openness.length = before.openness.length := by
      rw [cleared, List.length_set]
    refine ⟨Nat.le_refl _, Nat.le_of_eq same.symm, fun {place} closed => ?_, fun held => ?_⟩
    · have there : place < before.openness.length := (List.getElem?_eq_some_iff.mp closed).1
      rw [cleared, List.getElem?_set]
      split
      · rename_i here
        simp [here, there]
      · exact closed
    · rw [cache_releaseScope, if_neg (by simp)]
      exact held

theorem Moves.later (moves : Moves services before after) : Later before after := by
  induction moves with
  | refl => exact ⟨Nat.le_refl _, Nat.le_refl _, id, id⟩
  | tail _ move ih => exact ih.trans move.later

/-- A move that is no step of a resolution puts nothing into a cache. -/
theorem Move.held (move : Move services before after) :
    (∃ session, Step services session before after) ∨
      ∀ {name key object}, (after.cache name).get? key = some object →
        (before.cache name).get? key = some object := by
  cases move with
  | step step => exact .inl ⟨_, step⟩
  | relog container log => exact .inr id
  | build container built => exact .inr id
  | change container object change => exact .inr id
  | openScope container =>
    refine .inr fun {name key object} held => ?_
    rw [cache_openScope] at held
    exact held
  | releaseScope container id =>
    refine .inr fun {name key object} held => ?_
    rw [cache_releaseScope] at held
    split at held
    · cases held
    · exact held

theorem Move.orderly (move : Move services before after) (orderly : Orderly services before) :
    Orderly services after := by
  obtain ⟨session, step⟩ | former := move.held
  · exact step.orderly orderly
  · constructor
    · intro name key object made held
      exact Nat.lt_of_lt_of_le (orderly.below made (former held)) move.later.instances
    · intro name name' key key' object made made' held held'
      exact orderly.apart made made' (former held) (former held')

/-- An instance that existed before a move is in no place afterwards in which it was not before. -/
theorem Move.former (move : Move services before after)
    (there : object.index < before.instances.length) {name : CacheName}
    (made : services.IsMade key) (held : (after.cache name).get? key = some object) :
    (before.cache name).get? key = some object := by
  obtain ⟨session, step⟩ | former := move.held
  · obtain former | ⟨rfl, -⟩ := step.held made held
    · exact former
    · exact absurd there (Nat.lt_irrefl _)
  · exact former held

/-- An open scope keeps what it shares, or it is released. -/
theorem Move.retains (move : Move services before after)
    (isOpen : before.openness[id.index]? = some true) :
    (after.openness[id.index]? = some true ∧
        ∀ {key object}, (before.cache (.session (.scope id))).get? key = some object →
          (after.cache (.session (.scope id))).get? key = some object) ∨
      after = before.releaseScope id := by
  cases move with
  | step step =>
    have same : after.openness = before.openness := step.grows.scopes
    exact .inl ⟨same ▸ isOpen, step.grows.retains⟩
  | relog container log => exact .inl ⟨isOpen, fun held => held⟩
  | build container built => exact .inl ⟨isOpen, fun held => held⟩
  | change container object change => exact .inl ⟨isOpen, fun held => held⟩
  | openScope container =>
    have there : id.index < before.openness.length := (List.getElem?_eq_some_iff.mp isOpen).1
    refine .inl ⟨?_, fun held => ?_⟩
    · rw [(Opens.openScope before).openness, List.getElem?_append_left there]
      exact isOpen
    · rw [cache_openScope]
      exact held
  | releaseScope container other =>
    by_cases same : other = id
    · exact .inr (congrArg before.releaseScope same)
    · have apart : other.index ≠ id.index := fun equal => same (congrArg ScopeId.mk equal)
      refine .inl ⟨?_, fun held => ?_⟩
      · rw [openness_releaseScope, List.getElem?_set_ne apart]
        exact isOpen
      · rw [cache_releaseScope, if_neg (by simpa using Ne.symm same)]
        exact held

theorem Moves.former (moves : Moves services before after)
    (there : object.index < before.instances.length) {name : CacheName}
    (made : services.IsMade key) (held : (after.cache name).get? key = some object) :
    (before.cache name).get? key = some object := by
  induction moves with
  | refl => exact held
  | tail earlier move ih =>
    have still := Nat.lt_of_lt_of_le there (Moves.later earlier).instances
    exact ih (move.former still made held)

theorem Moves.orderly (moves : Moves services before after) (orderly : Orderly services before) :
    Orderly services after := by
  induction moves with
  | refl => exact orderly
  | tail _ move ih => exact move.orderly ih

/-- An instance was put into the cache of a scope: it is there as long as the scope is open, and
afterwards in no cache. -/
inductive Tracks (services : Services σ) (container : Container σ) (id : ScopeId)
    (key : ServiceKey) (object : InstanceId) : Prop where
  /-- The scope is open and shares the instance. -/
  | shared (there : object.index < container.instances.length)
      (isOpen : container.openness[id.index]? = some true)
      (held : (container.cache (.session (.scope id))).get? key = some object)
  /-- The scope has been released, and no cache has the instance. -/
  | dropped (there : object.index < container.instances.length)
      (closed : container.openness[id.index]? = some false)
      (loose : Loose services container object)

theorem Tracks.there (tracks : Tracks services container id key object) :
    object.index < container.instances.length := by
  cases tracks with
  | shared there | dropped there => exact there

/-- While a scope is open, it shares what was put into its cache. -/
theorem Tracks.held (tracks : Tracks services container id key object)
    (isOpen : container.openness[id.index]? = some true) :
    (container.cache (.session (.scope id))).get? key = some object := by
  cases tracks with
  | shared there _ held => exact held
  | dropped there closed =>
    rw [isOpen] at closed
    cases closed

/-- Once the scope has been released, no cache has the instance. -/
theorem Tracks.loose (tracks : Tracks services container id key object)
    (closed : container.openness[id.index]? = some false) : Loose services container object := by
  cases tracks with
  | shared there isOpen =>
    rw [closed] at isOpen
    cases isOpen
  | dropped there _ loose => exact loose

/-- An instance that a cache has for a key of the same kind is in the cache of the scope. -/
theorem Tracks.eq_of_held (tracks : Tracks services container id key object)
    (orderly : Orderly services container) (made : services.IsMade key) {name : CacheName}
    (held : (container.cache name).get? key = some object) : name = .session (.scope id) := by
  cases tracks with
  | shared there isOpen shares => exact (orderly.apart made made held shares).1
  | dropped there closed loose => exact absurd held (loose made)

theorem Move.tracks (move : Move services before after) (orderly : Orderly services before)
    (made : services.IsMade key) (tracks : Tracks services before id key object) :
    Tracks services after id key object := by
  have there := Nat.lt_of_lt_of_le tracks.there move.later.instances
  cases tracks with
  | dropped former closed loose =>
    exact .dropped there (move.later.closed closed)
      fun made held => loose made (move.former former made held)
  | shared former isOpen held =>
    obtain ⟨still, retains⟩ | rfl := move.retains isOpen
    · exact .shared there still (retains held)
    · -- the instance had one place, and that is cleared
      have inside : id.index < before.openness.length := (List.getElem?_eq_some_iff.mp isOpen).1
      have closed : (before.releaseScope id).openness[id.index]? = some false := by
        rw [openness_releaseScope, List.getElem?_set_self inside]
      refine .dropped there closed fun {name key'} made' held' => ?_
      rw [cache_releaseScope] at held'
      split at held'
      · cases held'
      · rename_i elsewhere
        exact elsewhere (orderly.apart made' made held' held).1

theorem Moves.tracks (moves : Moves services before after) (orderly : Orderly services before)
    (made : services.IsMade key) (tracks : Tracks services before id key object) :
    Tracks services after id key object := by
  induction moves with
  | refl => exact tracks
  | tail earlier move ih => exact move.tracks (Moves.orderly earlier orderly) made ih

end Container

end ServiceDispatch
