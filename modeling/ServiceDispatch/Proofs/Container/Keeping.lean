import ServiceDispatch.Proofs.Call.Injections

/-!
# What containers keep

A cache lives until its scope is released; the caches of the container itself live forever. While
services are resolved and scopes opened and released, a cache that lives keeps what it holds, and
instances stay what they are. Changes of the contents of instances are not covered.
-/

namespace ServiceDispatch

variable {σ : Type} {services : Services σ}

/-- A cache is that of the container itself, or of a scope that has not been released. -/
def CacheName.IsLive (container : Container σ) : CacheName → Prop
  | .singletons => True
  | .session asked => asked.IsOpen container

namespace Container

variable {before middle after container : Container σ} {name : CacheName} {key : ServiceKey}
  {object : InstanceId}

/-- A cache that holds something exists. -/
theorem hasCache_of_held (held : (container.cache name).get? key = some object) :
    container.HasCache name := by
  match name with
  | .singletons | .session .root => trivial
  | .session (.scope id) =>
    refine Nat.lt_of_not_le fun outside => ?_
    rw [cache, scope?, List.getElem?_eq_none outside] at held
    cases held

/-- A container has become another one that keeps what lives. -/
structure Keeps (before after : Container σ) : Prop where
  /-- Nothing is taken back. -/
  later : Later before after
  /-- Instances are added at the end. -/
  instances : before.instances <+: after.instances
  /-- A cache that lives afterwards holds what it held. -/
  held : ∀ {name key object}, name.IsLive after →
    (before.cache name).get? key = some object → (after.cache name).get? key = some object

theorem Grows.keeps (grows : Grows before after) : Keeps before after where
  later := by
    have same : after.openness = before.openness := grows.scopes
    refine ⟨grows.instances.length_le, Nat.le_of_eq (congrArg List.length same.symm),
      fun closed => ?_, grows.retains⟩
    rwa [same]
  instances := grows.instances
  held := fun _ => grows.retains

theorem Keeps.refl (container : Container σ) : Keeps container container :=
  (Grows.refl container).keeps

/-- A cache that lives later and held something before lives in between. -/
theorem Keeps.isLive (first : Keeps before middle) (second : Keeps middle after)
    (live : name.IsLive after) (held : (before.cache name).get? key = some object) :
    name.IsLive middle := by
  match name, live with
  | .singletons, _ | .session .root, _ => trivial
  | .session (.scope id), isOpen =>
    have former : id.index < before.scopes.length := hasCache_of_held held
    have there : id.index < middle.openness.length := by
      refine Nat.lt_of_lt_of_le ?_ first.later.scopes
      rwa [openness, List.length_map]
    cases state : middle.openness[id.index]? with
    | none => exact absurd there (Nat.not_lt_of_le (List.getElem?_eq_none_iff.mp state))
    | some isOpen_middle =>
      cases isOpen_middle with
      | true => exact state
      | false =>
        have closed := second.later.closed state
        rw [show after.openness[id.index]? = some true from isOpen] at closed
        cases closed

theorem Keeps.trans (first : Keeps before middle) (second : Keeps middle after) :
    Keeps before after where
  later := first.later.trans second.later
  instances := first.instances.trans second.instances
  held := fun live held =>
    second.held live (first.held (first.isLive second live held) held)

theorem Keeps.openScope (container : Container σ) : Keeps container container.openScope.2 where
  later := by
    have move : Move .empty container _ := .openScope container
    exact move.later
  instances := List.prefix_rfl
  held := fun _ held => by rwa [cache_openScope]

theorem Keeps.releaseScope (container : Container σ) (id : ScopeId) :
    Keeps container (container.releaseScope id) where
  later := by
    have move : Move .empty container _ := .releaseScope container id
    exact move.later
  instances := List.prefix_rfl
  held := by
    intro name key object live held
    rw [cache_releaseScope, if_neg]
    · exact held
    · rintro rfl
      have isOpen : (container.releaseScope id).openness[id.index]? = some true := live
      rw [openness_releaseScope, List.getElem?_set_self'] at isOpen
      simp at isOpen

/-- A container becomes another one by moves that keep what lives. -/
structure Passes (services : Services σ) (before after : Container σ) : Prop where
  /-- It goes by moves. -/
  moves : Moves services before after
  /-- What lives is kept. -/
  keeps : Keeps before after

theorem Passes.refl (container : Container σ) : Passes services container container :=
  ⟨Moves.refl container, Keeps.refl container⟩

theorem Passes.trans (first : Passes services before middle)
    (second : Passes services middle after) : Passes services before after :=
  ⟨first.moves.trans second.moves, first.keeps.trans second.keeps⟩

theorem Reaches.passes {session : Session} (reaches : Reaches services session before after) :
    Passes services before after :=
  ⟨reaches.moves, reaches.grows.keeps⟩

theorem Passes.openScope (container : Container σ) :
    Passes services container container.openScope.2 :=
  ⟨(Move.openScope container).moves, Keeps.openScope container⟩

theorem Passes.releaseScope (container : Container σ) (id : ScopeId) :
    Passes services container (container.releaseScope id) :=
  ⟨(Move.releaseScope container id).moves, Keeps.releaseScope container id⟩

end Container

end ServiceDispatch
