import ServiceDispatch.Proofs.Container.Commands
import ServiceDispatch.Proofs.Container.Registration

/-!
# Identity of services

Which requests share an instance. That is decided by the lifetime of the service alone: singletons
are shared by everyone, scoped services by the requests to one session, and transient services by
nobody, wherever in a history the requests are made. Instances that were handed in ready-made are
singletons.
-/

namespace ServiceDispatch

variable {σ : Type} {services : Services σ}

namespace Container

/-- Requests share instances, and caches keep them, as lifetimes say. -/
structure FollowsLifetimes (services : Services σ) (history : List (Occurrence σ)) : Prop where
  /-- Two requests for one key are given the same instance if the service is a singleton, or if it
  is scoped and they are made to the same session; otherwise they are not. -/
  identity : history.Pairwise fun first second => ∀ {key session session' object object'},
    first.deed = .request session key (.ok (some object)) →
    second.deed = .request session' key (.ok (some object')) →
    (object = object' ↔ services.lifetime? key = some .singleton ∨
      services.lifetime? key = some .scoped ∧ session = session')
  /-- What a cache holds is not replaced while the cache lives. -/
  keeps : history.Pairwise fun first second => ∀ {name key object}, name.IsLive second.after →
    (first.after.cache name).get? key = some object →
    (second.after.cache name).get? key = some object
  /-- A request for a service that is shared is given what the cache holds afterwards. -/
  holds : ∀ occurrence ∈ history, ∀ {session key object lifetime name},
    occurrence.deed = .request session key (.ok (some object)) →
    services.lifetime? key = some lifetime → lifetime.cache? session = some name →
    (occurrence.after.cache name).get? key = some object

variable {container : Container σ} {commands : List Command}
  {occurrence first second : Occurrence σ}
  {session session' : Session} {key : ServiceKey} {object object' : InstanceId}
  {registration : Registration σ}

theorem get?_of_lifetime? {lifetime : Lifetime} (known : services.lifetime? key = some lifetime) :
    ∃ supply, services.get? key = some ⟨lifetime, supply⟩ := by
  rw [Services.lifetime?] at known
  cases registered : services.get? key with
  | none => simp [registered] at known
  | some registration =>
    obtain ⟨_, supply⟩ := registration
    obtain rfl : _ = lifetime := by simpa [registered] using known
    exact ⟨supply, rfl⟩

/-- What a request for a shared service is given is in the cache afterwards, which is live. -/
theorem held_of_request (admits : Admits services container commands)
    (mem : occurrence ∈ history services container commands)
    (deed : occurrence.deed = .request session key (.ok (some object)))
    (registered : services.get? key = some registration) {name : CacheName}
    (place : registration.lifetime.cache? session = some name) :
    (occurrence.after.cache name).get? key = some object ∧ name.IsLive occurrence.after := by
  obtain ⟨isOpen, still⟩ := isOpen_of_request admits mem deed
  obtain ⟨found, found_eq, answers⟩ := answers_of_request admits mem deed
  rw [registered] at found_eq
  obtain rfl := Option.some.inj found_eq
  rw [Resolution.Answers, place] at answers
  cases lifetime : registration.lifetime with
  | transient =>
    rw [lifetime] at place
    cases place
  | singleton =>
    rw [lifetime] at place
    cases place
    exact ⟨answers trivial, trivial⟩
  | _ =>
    rw [lifetime] at place
    cases place
    exact ⟨answers (Wrapper.hasCache_of_isOpen isOpen), still⟩

/-- Two requests that look into one cache are given one instance. -/
theorem eq_of_cache (admits : Admits services container commands)
    (mem : first ∈ history services container commands)
    (mem' : second ∈ history services container commands)
    (precedes : first.Precedes services second)
    (deed : first.deed = .request session key (.ok (some object)))
    (deed' : second.deed = .request session' key (.ok (some object')))
    (registered : services.get? key = some registration) {name : CacheName}
    (place : registration.lifetime.cache? session = some name)
    (place' : registration.lifetime.cache? session' = some name) : object = object' := by
  have held := (held_of_request admits mem deed registered place).1
  obtain ⟨held', live⟩ := held_of_request admits mem' deed' registered place'
  rw [precedes.keeps.held live held] at held'
  exact Option.some.inj held'

/-- Two requests that look into different caches are not given one instance that a factory built. -/
theorem ne_of_caches (unused : container.IsUnused) (admits : Admits services container commands)
    (mem : first ∈ history services container commands)
    (mem' : second ∈ history services container commands)
    (precedes : first.Precedes services second)
    (deed : first.deed = .request session key (.ok (some object)))
    (deed' : second.deed = .request session' key (.ok (some object')))
    (registered : services.get? key = some registration) (made : services.IsMade key)
    {name name' : CacheName} (place : registration.lifetime.cache? session = some name)
    (place' : registration.lifetime.cache? session' = some name') (apart : name ≠ name') :
    object ≠ object' := by
  rintro rfl
  have held := (held_of_request admits mem deed registered place).1
  have held' := (held_of_request admits mem' deed' registered place').1
  have since := isSince_history mem
  have orderly : Orderly services first.after :=
    (since.since.trans since.during).moves.orderly unused.orderly
  have request : first.deed.isRequest = true := by rw [deed]; rfl
  -- the instance was there when the first request ended, so it was in the other cache even then
  have former := (precedes.moves request).former (orderly.below made held) made held'
  exact apart (orderly.apart made made held former).1

/-- Two requests for a transient service are not given one instance. -/
theorem ne_of_isFresh (mem : first ∈ history services container commands)
    (precedes : first.Precedes services second)
    (deed : first.deed = .request session key (.ok (some object)))
    (deed' : second.deed = .request session' key (.ok (some object')))
    (isFresh : services.IsFresh key) : object ≠ object' := by
  rintro rfl
  have there := ((isSince_history mem).fresh deed isFresh).2
  have new := precedes.fresh (by rw [deed]; rfl) deed' isFresh
  omega

/-- In every history of a container, requests share instances and caches keep them as lifetimes
say. -/
theorem history_followsLifetimes (unused : container.IsUnused)
    (adopts : services.AdoptsSingletons) (admits : Admits services container commands) :
    FollowsLifetimes services (history services container commands) where
  identity := by
    refine (ordered_history services container commands).imp_of_mem
      fun {first second} mem mem' precedes => ?_
    intro key session session' object object' deed deed'
    obtain ⟨⟨lifetime, supply⟩, registered, -⟩ := answers_of_request admits mem deed
    have known : services.lifetime? key = some lifetime := by
      rw [Services.lifetime?, registered]
      rfl
    rw [known]
    have made : lifetime ≠ .singleton → ∃ recipe, supply = .factory recipe := by
      intro other
      cases supply with
      | existing given => exact absurd (adopts registered) other
      | factory recipe => exact ⟨recipe, rfl⟩
    cases lifetime with
    | singleton =>
      simpa using eq_of_cache admits mem mem' precedes deed deed' registered rfl rfl
    | transient =>
      obtain ⟨recipe, rfl⟩ := made (by decide)
      simpa using ne_of_isFresh mem precedes deed deed' ⟨recipe, registered⟩
    | _ =>
      obtain ⟨recipe, rfl⟩ := made (by decide)
      by_cases same : session = session'
      · subst same
        simpa using eq_of_cache admits mem mem' precedes deed deed' registered rfl rfl
      · have apart : CacheName.session session ≠ .session session' := by simpa using same
        simpa [same] using ne_of_caches unused admits mem mem' precedes deed deed' registered
          ⟨_, recipe, registered⟩ rfl rfl apart
  keeps := (ordered_history services container commands).imp fun precedes => precedes.keeps.held
  holds := by
    intro occurrence mem session key object lifetime name deed known place
    obtain ⟨supply, registered⟩ := get?_of_lifetime? known
    exact (held_of_request admits mem deed registered place).1

/-- What each request was given, by session and key. -/
def gifts (history : List (Occurrence σ)) : List (Session × ServiceKey × InstanceId) :=
  history.filterMap fun occurrence =>
    match occurrence.deed with
    | .request session key (.ok (some object)) => some (session, key, object)
    | _ => none

end Container

/-- The transient service is asked for in a scope and in the container itself, and the scoped one
once more in the scope, which is released then. -/
def Sample.Interwoven.commands : List Container.Command :=
  [.openScope, .resolve (.scope ⟨0⟩) (key 3), .resolve .root (key 3),
    .resolve (.scope ⟨0⟩) (key 1), .releaseScope ⟨0⟩]

namespace Container

open Sample in
/-- Nested requests for the same services in two sessions, with what each of them is given. -/
theorem history_followsLifetimes_interwoven :
    Interwoven.container.IsUnused ∧ Interwoven.services.AdoptsSingletons ∧
      Admits Interwoven.services Interwoven.container Interwoven.commands ∧
      gifts (history Interwoven.services Interwoven.container Interwoven.commands) =
        [(.scope ⟨0⟩, Interwoven.key 0, ⟨0⟩), (.scope ⟨0⟩, Interwoven.key 1, ⟨1⟩),
          (.root, Interwoven.key 0, ⟨0⟩), (.root, Interwoven.key 1, ⟨2⟩),
          (.scope ⟨0⟩, Interwoven.key 2, ⟨3⟩), (.scope ⟨0⟩, Interwoven.key 3, ⟨4⟩),
          (.root, Interwoven.key 1, ⟨2⟩), (.root, Interwoven.key 2, ⟨3⟩),
          (.root, Interwoven.key 3, ⟨5⟩), (.scope ⟨0⟩, Interwoven.key 1, ⟨1⟩)] ∧
      FollowsLifetimes Interwoven.services
        (history Interwoven.services Interwoven.container Interwoven.commands) := by
  have admits : Admits Interwoven.services Interwoven.container Interwoven.commands := by
    decide +kernel
  exact ⟨Interwoven.isSetUp.toIsUnused, Interwoven.isSetUp.adopts, admits, by decide +kernel,
    history_followsLifetimes Interwoven.isSetUp.toIsUnused Interwoven.isSetUp.adopts admits⟩

end Container

end ServiceDispatch
