import ServiceDispatch.Proofs.Container.Origin

/-!
# Scopes are kept apart

What the container itself shares never depends on what was built for a scope, and what is asked of a
scope reaches neither the caches of other scopes nor, but for the singletons that are built on the
way, those of the container itself. Instances that are transient are in no cache; whoever asked for
them may hold them beyond their scope.
-/

namespace ServiceDispatch

variable {σ : Type} {services : Services σ}

namespace Container

variable {before after : Container σ} {session : Session} {name : CacheName} {key : ServiceKey}
  {object : InstanceId}

theorem cache_store_of_ne (container : Container σ) {name other : CacheName} (apart : name ≠ other)
    (key : ServiceKey) (object : InstanceId) :
    (container.store name key object).cache other = container.cache other := by
  match name, other with
  | .singletons, .singletons | .session .root, .session .root => exact absurd rfl apart
  | .singletons, .session .root | .session .root, .singletons
  | .singletons, .session (.scope _) | .session .root, .session (.scope _)
  | .session (.scope _), .singletons | .session (.scope _), .session .root => rfl
  | .session (.scope id), .session (.scope id') =>
    have places : id.index ≠ id'.index := fun same =>
      apart (congrArg (CacheName.session ∘ Session.scope) (congrArg ScopeId.mk same))
    simp [store, cache, scope?, List.getElem?_modify_ne _ _ places]

theorem cache_settle_of_ne (container : Container σ) {place : Option CacheName} {name : CacheName}
    (apart : place ≠ some name) (key : ServiceKey) (object : InstanceId) :
    (container.settle place key object).2.cache name = container.cache name := by
  cases place with
  | none => rfl
  | some other =>
    dsimp only [settle]
    cases (container.cache other).get? key with
    | some first => rfl
    | none => exact cache_store_of_ne container (fun same => apart (congrArg some same)) key object

theorem cache_starting (container : Container σ) (key : ServiceKey) (lifetime : Lifetime) :
    (container.starting key lifetime).cache = container.cache := by
  cases lifetime <;> rfl

/-- A step of a session changes only the cache of the session and those of the container itself. -/
theorem Step.cache_eq (step : Step services session before after) (other : ¬ name.IsOwn)
    (apart : name ≠ .session session) : after.cache name = before.cache name := by
  have elsewhere : ∀ {key place}, services.SharesIn session key place → place ≠ name := by
    rintro key place ⟨registration, asked, -, belongs, here⟩ rfl
    cases lifetime : registration.lifetime with
    | transient =>
      rw [lifetime] at here
      cases here
    | singleton =>
      rw [lifetime] at here
      cases here
      exact other (.inl rfl)
    | _ =>
      rw [lifetime] at here
      cases here
      obtain rfl | rfl := belongs
      · exact apart rfl
      · exact other (.inr rfl)
  cases step with
  | report key => rfl
  | build makes => rfl
  | share makes shares free => exact cache_store_of_ne _ (elsewhere shares) _ _
  | adopt existing shares free => exact cache_store_of_ne _ (elsewhere shares) _ _

theorem Reaches.cache_eq (reaches : Reaches services session before after) (other : ¬ name.IsOwn)
    (apart : name ≠ .session session) : after.cache name = before.cache name := by
  induction reaches with
  | refl => rfl
  | tail _ step ih => exact (step.cache_eq other apart).trans ih

end Container

/-- Between two states of a container, some part of it changes only during some occurrences, one
after another. -/
inductive ChangesOnlyIn {α : Type} (part : Container σ → α) :
    List (Occurrence σ) → Container σ → Container σ → Prop where
  /-- There is no change. -/
  | none {before after : Container σ} (same : part after = part before) :
      ChangesOnlyIn part [] before after
  /-- There is no change before the first of the occurrences. -/
  | during {occurrence : Occurrence σ} {rest : List (Occurrence σ)} {before after : Container σ}
      (same : part occurrence.before = part before)
      (later : ChangesOnlyIn part rest occurrence.after after) :
      ChangesOnlyIn part (occurrence :: rest) before after

namespace ChangesOnlyIn

variable {α : Type} {part : Container σ → α} {first second : List (Occurrence σ)}
  {before middle after : Container σ}

theorem of_same (same : part middle = part before)
    (later : ChangesOnlyIn part second middle after) :
    ChangesOnlyIn part second before after := by
  cases later with
  | none unchanged => exact .none (unchanged.trans same)
  | during unchanged later => exact .during (unchanged.trans same) later

theorem trans (earlier : ChangesOnlyIn part first before middle)
    (later : ChangesOnlyIn part second middle after) :
    ChangesOnlyIn part (first ++ second) before after := by
  induction earlier with
  | none same => exact later.of_same same
  | during same _ ih => exact .during same (ih later)

end ChangesOnlyIn

/-- The factory of a singleton runs. -/
def Occurrence.BuildsSingleton (services : Services σ) (occurrence : Occurrence σ) : Prop :=
  ∃ key result, occurrence.deed = .production .root key result ∧
    services.lifetime? key = some .singleton

/-- What requests to the container itself share changes only while singletons are built. -/
def ChangesOnBuilds (services : Services σ) (past : List (Occurrence σ))
    (before after : Container σ) : Prop :=
  ∃ builds, List.Sublist builds past ∧
    (∀ built ∈ builds, Occurrence.BuildsSingleton services built) ∧
    ChangesOnlyIn Container.rootScoped builds before after

namespace ChangesOnBuilds

variable {first second past : List (Occurrence σ)} {before middle after : Container σ}

theorem of_same (past : List (Occurrence σ)) (same : after.rootScoped = before.rootScoped) :
    ChangesOnBuilds services past before after :=
  ⟨[], List.nil_sublist past, fun _ mem => (nomatch mem), .none same⟩

theorem trans (earlier : ChangesOnBuilds services first before middle)
    (later : ChangesOnBuilds services second middle after) :
    ChangesOnBuilds services (first ++ second) before after := by
  obtain ⟨builds, part, singletons, changes⟩ := earlier
  obtain ⟨builds', part', singletons', changes'⟩ := later
  exact ⟨builds ++ builds', part.append part',
    List.forall_mem_append.mpr ⟨singletons, singletons'⟩, changes.trans changes'⟩

end ChangesOnBuilds

namespace Resolution

variable {before middle last after : Container σ} {past inner : List (Occurrence σ)}
  {session : Session} {key : ServiceKey} {lifetime : Lifetime}

/-- A request to a scope settles nothing among what requests to the container itself share. -/
theorem rootScoped_settle (ofScope : session ≠ .root) (container : Container σ)
    (lifetime : Lifetime) (key : ServiceKey) (object : InstanceId) :
    (container.settle (lifetime.cache? session) key object).2.rootScoped =
      container.rootScoped := by
  have apart : lifetime.cache? session ≠ some (.session .root) := by
    cases lifetime <;> simp [Lifetime.cache?, ofScope]
  exact container.cache_settle_of_ne apart key object

theorem rootScoped_starting (container : Container σ) (key : ServiceKey) (lifetime : Lifetime) :
    (container.starting key lifetime).rootScoped = container.rootScoped :=
  congrFun (container.cache_starting key lifetime) (.session .root)

theorem AnswersAtOnce.rootScoped_eq (ofScope : session ≠ .root)
    {answer : Except Failure (Option InstanceId)}
    (answers : AnswersAtOnce services session key before answer after) :
    after.rootScoped = before.rootScoped := by
  cases answers with
  | absent | shared => rfl
  | existing registered settles =>
    subst settles
    exact (rootScoped_settle ofScope _ _ _ _).trans (rootScoped_starting _ _ _)

/-- A factory that a request to a scope runs changes what the container itself shares only while it
builds singletons, be it the factory of a singleton itself. -/
theorem changesOnBuilds_factory {supply : Supply σ}
    (registered : services.get? key = some ⟨lifetime, supply⟩)
    (nested : lifetime.builder session ≠ .root →
      ChangesOnBuilds services inner (middle.starting key lifetime) last)
    (ofScope : session ≠ .root) {result : Except Failure InstanceId}
    (request : Occurrence σ) (produced : after.rootScoped = last.rootScoped) :
    ChangesOnBuilds services
      (inner ++ [⟨middle.starting key lifetime,
        .production (lifetime.builder session) key result, last⟩, request]) middle after := by
  have starts : ChangesOnBuilds services [] middle (middle.starting key lifetime) :=
    .of_same [] (rootScoped_starting _ _ _)
  cases lifetime with
  | singleton =>
    refine ⟨[_], (List.singleton_sublist.mpr (List.mem_append_right _ List.mem_cons_self)),
      List.forall_mem_singleton.mpr ⟨key, result, rfl, ?_⟩, .during rfl (.none produced)⟩
    rw [Services.lifetime?, registered]
    rfl
  | _ => exact (starts.trans (nested ofScope)).trans (.of_same _ produced)

/-- A course of requests to a scope changes what the container itself shares only while it builds
singletons. -/
theorem Course.changesOnBuilds (course : Course services session before past after)
    (ofScope : session ≠ .root) : ChangesOnBuilds services past before after := by
  induction course with
  | start => exact .of_same [] rfl
  | answered _ answers ih => exact (ih ofScope).trans (.of_same _ (answers.rootScoped_eq ofScope))
  | failed _ _ registered _ _ ih inside =>
    exact (ih ofScope).trans (changesOnBuilds_factory registered inside ofScope _ rfl)
  | @built _ _ _ last _ _ _ _ _ instance_ _ _ registered _ _ _ _ settles ih inside =>
    subst settles
    refine (ih ofScope).trans (changesOnBuilds_factory registered (fun forScope => ?_) ofScope _
      (rootScoped_settle ofScope _ _ _ _))
    have allocated : ChangesOnBuilds services [] last (last.allocate instance_).2 :=
      .of_same [] rfl
    simpa only [List.append_nil] using (inside forScope).trans allocated

/-- No scope is released while services are resolved. -/
theorem Course.not_closing (course : Course services session before past after) (id : ScopeId) :
    ∀ occurrence ∈ past, occurrence.deed ≠ .closing id := by
  induction course with
  | start => exact fun _ mem => nomatch mem
  | answered _ _ ih =>
    refine List.forall_mem_append.mpr ⟨ih, List.forall_mem_singleton.mpr ?_⟩
    exact nofun
  | failed _ _ _ _ _ ih inside | built _ _ _ _ _ _ _ ih inside =>
    refine List.forall_mem_append.mpr ⟨ih, List.forall_mem_append.mpr ⟨inside, ?_⟩⟩
    exact List.forall_mem_cons.mpr ⟨nofun, List.forall_mem_singleton.mpr nofun⟩

end Resolution

namespace Container

variable {container : Container σ} {commands : List Command}

/-- Scopes are kept apart from the container itself and from one another. -/
structure KeepsApart (services : Services σ) (history : List (Occurrence σ)) : Prop where
  /-- What the container itself shares neither was built for a scope nor depends, directly or
  through other instances, on one that was. -/
  independent : ∀ occurrence ∈ history, ∀ {name key object dependency}, name.IsOwn →
    (occurrence.after.cache name).get? key = some object →
    Relation.ReflTransGen occurrence.after.DependsOn object dependency →
    ¬ BuiltForScope history dependency
  /-- What a scope shares was built for a scope. -/
  inScope : ∀ occurrence ∈ history, ∀ {id key object},
    (occurrence.after.cache (.session (.scope id))).get? key = some object →
    BuiltForScope history object
  /-- A request to a scope, whatever its answer, changes no cache of another scope. What requests to
  the container itself share it changes only while it builds singletons on the way. -/
  confined : ∀ occurrence ∈ history, ∀ {id key answer},
    occurrence.deed = .request (.scope id) key answer →
    (∀ other, other ≠ id → occurrence.after.cache (.session (.scope other)) =
      occurrence.before.cache (.session (.scope other))) ∧
    ∃ inner, inner ++ [occurrence] <:+: history ∧
      (∀ inside ∈ inner, inside.IsSince services occurrence.before) ∧
      ChangesOnBuilds services (inner ++ [occurrence]) occurrence.before occurrence.after
  /-- The release of a scope clears its cache and changes no other one. -/
  released : ∀ occurrence ∈ history, ∀ {id}, occurrence.deed = .closing id →
    occurrence.after.cache (.session (.scope id)) = .empty ∧
    ∀ name, name ≠ .session (.scope id) → occurrence.after.cache name = occurrence.before.cache name

theorem DependsOn.of_keeps {before after : Container σ} (keeps : Keeps before after)
    {object dependency : InstanceId} (depends : before.DependsOn object dependency) :
    after.DependsOn object dependency := by
  obtain ⟨built, found, needs⟩ := depends
  obtain ⟨added, same⟩ := keeps.instances
  refine ⟨built, ?_, needs⟩
  rw [instance?, ← same, List.getElem?_append_left (instance?_lt found)]
  exact found

/-- What was not built for a scope depends on nothing that was. -/
theorem Separates.independent {history : List (Occurrence σ)}
    (separates : Separates services history container) {object dependency : InstanceId}
    (apart : ¬ BuiltForScope history object)
    (chain : Relation.ReflTransGen container.DependsOn object dependency) :
    ¬ BuiltForScope history dependency := by
  induction chain with
  | refl => exact apart
  | tail _ depends ih => exact fun built => ih ((separates.dependencies depends).2 built)

/-- In every history of a container, scopes are kept apart. -/
theorem history_keepsApart (setUp : container.IsSetUp services)
    (admits : Admits services container commands) :
    KeepsApart services (history services container commands) := by
  have separates : Separates services (history services container commands)
      (afterAll services container commands) := by
    simpa only [List.nil_append] using setUp.separates.commands setUp.adopts commands
  constructor
  case independent =>
    intro occurrence mem name key object dependency isOwn held chain
    have keeps := (isUntil_history mem).keeps
    have live : name.IsLive (afterAll services container commands) := by
      obtain rfl | rfl := isOwn <;> trivial
    exact separates.independent (separates.own isOwn (keeps.held live held)).2
      (chain.lift id fun _ _ depends => DependsOn.of_keeps keeps depends)
  case inScope =>
    intro occurrence mem id key object held
    exact separates.inScope _ (.inr ⟨occurrence, mem, rfl⟩) held
  case confined =>
    intro occurrence mem id key answer deed
    obtain ⟨asked, middle, past, after, -, course, inside, part⟩ :=
      course_of_request admits mem deed
    obtain ⟨-, inner, own, request⟩ := course.request inside deed
    refine ⟨fun other apart => ?_, inner, own.trans part, fun within inner_mem => ?_,
      request.changesOnBuilds (by simp)⟩
    · exact request.reaches.cache_eq (by simp [CacheName.IsOwn]) (by simpa using apart)
    · exact request.isSince (List.mem_append_left _ inner_mem)
  case released =>
    intro occurrence mem id deed
    obtain ⟨middle, command, -, inside, -⟩ := command_of_mem_history admits mem
    cases command with
    | resolve session key =>
      exact absurd deed ((course_resolve services middle session key).not_closing id _ inside)
    | openScope =>
      obtain rfl := List.mem_singleton.mp inside
      cases deed
    | releaseScope scope =>
      obtain rfl := List.mem_singleton.mp inside
      cases deed
      refine ⟨?_, fun name apart => ?_⟩
      · rw [cache_releaseScope, if_pos rfl]
      · rw [cache_releaseScope, if_neg apart]

end Container

/-- A singleton and what it needs are asked for in a scope, so are those of another scope, and the
first one is released. -/
def Sample.Interwoven.crossing : List Container.Command :=
  [.openScope, .openScope, .resolve (.scope ⟨0⟩) (key 2), .resolve (.scope ⟨1⟩) (key 3),
    .releaseScope ⟨0⟩, .resolve .root (key 3)]

namespace Container

open Sample in
/-- A singleton that is asked for in a scope and needs a scoped service gets one of its own, and
with that the service that was handed in. -/
theorem history_keepsApart_interwoven :
    Interwoven.container.IsSetUp Interwoven.services ∧
      Admits Interwoven.services Interwoven.container Interwoven.crossing ∧
      (afterAll Interwoven.services Interwoven.container Interwoven.crossing).instances.map
          Instance.dependencies =
        [[], [some ⟨0⟩], [some ⟨1⟩], [some ⟨0⟩], [some ⟨3⟩, some ⟨2⟩],
          [some ⟨1⟩, some ⟨2⟩]] ∧
      KeepsApart Interwoven.services
        (history Interwoven.services Interwoven.container Interwoven.crossing) := by
  have admits : Admits Interwoven.services Interwoven.container Interwoven.crossing := by
    decide +kernel
  exact ⟨Interwoven.isSetUp, admits, by decide +kernel,
    history_keepsApart Interwoven.isSetUp admits⟩

end Container

end ServiceDispatch
