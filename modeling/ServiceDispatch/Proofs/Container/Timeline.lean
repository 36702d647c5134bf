import ServiceDispatch.Proofs.Container.History
import ServiceDispatch.Proofs.Container.Keeping

/-!
# Order in histories

Every occurrence of a history lies between its start and its end, occurrences follow one another,
and what a request answers is settled by the lifetime of the service. A cache keeps what it holds as
long as it lives, that is, until its scope is released.
-/

namespace ServiceDispatch

variable {σ : Type} {services : Services σ}

/-- Factories run for the session that asks or for the container itself. -/
theorem Lifetime.builder_eq (session : Session) (lifetime : Lifetime) :
    lifetime.builder session = session ∨ lifetime.builder session = .root := by
  cases lifetime with
  | singleton => exact .inr rfl
  | _ => exact .inl rfl

/-- What the container itself asks for, it builds itself. -/
theorem Lifetime.builder_root (lifetime : Lifetime) : lifetime.builder .root = .root :=
  (lifetime.builder_eq .root).elim id id

namespace Container

variable {session : Session} {before middle after container : Container σ} {key : ServiceKey}
  {lifetime : Lifetime}

/-- A factory takes no steps that its request could not take. -/
theorem Reaches.of_builder
    (reaches : Reaches services (lifetime.builder session) before after) :
    Reaches services session before after := by
  cases lifetime with
  | singleton => exact reaches.of_root
  | _ => exact reaches

theorem reaches_starting (container : Container σ) (key : ServiceKey) (lifetime : Lifetime) :
    Reaches services session container (container.starting key lifetime) := by
  cases lifetime with
  | singleton => exact (Step.report container key).reaches
  | _ => exact Reaches.refl container

/-- Settling an instance loses nothing. -/
theorem grows_settle (container : Container σ) (place : Option CacheName) (key : ServiceKey)
    (object : InstanceId) : Grows container (container.settle place key object).2 := by
  cases place with
  | none => exact Grows.refl container
  | some name =>
    dsimp only [settle]
    cases free : (container.cache name).get? key with
    | some first => exact Grows.refl container
    | none => exact Grows.store container object free

/-- What is settled in an existing cache is held there. -/
theorem held_settle {name : CacheName} {object : InstanceId} {settled : InstanceId × Container σ}
    (settles : container.settle (some name) key object = settled)
    (present : container.HasCache name) : (settled.2.cache name).get? key = some settled.1 := by
  subst settles
  dsimp only [settle]
  cases held : (container.cache name).get? key with
  | some first => exact held
  | none =>
    rw [get?_cache_store _ _ _ _ _ _ present]
    simp

end Container

namespace Resolution

open Container (Reaches Step Grows)

variable {session : Session} {before middle after : Container σ} {past : List (Occurrence σ)}
  {key : ServiceKey} {lifetime : Lifetime}

/-- A new instance is settled by one step. -/
theorem reaches_settle_built {recipe : Recipe σ} {instance_ : Instance σ}
    {settled : InstanceId × Container σ}
    (registered : services.get? key = some ⟨lifetime, .factory recipe⟩)
    (builds : recipe.Builds instance_.typeName instance_.content)
    (settles : (middle.allocate instance_).2.settle (lifetime.cache? session) key
      (middle.allocate instance_).1 = settled) :
    Reaches services session middle settled.2 := by
  subst settles
  have makes : services.Makes key instance_ := ⟨lifetime, recipe, registered, builds⟩
  cases place : lifetime.cache? session with
  | none => exact (Step.build middle makes).reaches
  | some name =>
    dsimp only [Container.settle]
    rw [Container.cache_allocate]
    cases free : (middle.cache name).get? key with
    | some first => exact (Step.build middle makes).reaches
    | none =>
      exact (Step.share middle makes ⟨_, session, registered, .inl rfl, place⟩ free).reaches

/-- An occurrence of a course that ends in a production is one before it, one inside it, the
production or its request. -/
theorem mem_episode {inner : List (Occurrence σ)} {occurrence production request : Occurrence σ}
    (mem : occurrence ∈ past ++ (inner ++ [production, request])) :
    occurrence ∈ past ∨ occurrence ∈ inner ∨ occurrence = production ∨ occurrence = request := by
  simpa using mem

theorem AnswersAtOnce.reaches {answer : Except Failure (Option InstanceId)}
    (answers : AnswersAtOnce services session key before answer after) :
    Reaches services session before after := by
  cases answers with
  | absent | shared => exact Reaches.refl before
  | @existing lifetime object _ registered settles =>
    subst settles
    refine (Container.reaches_starting before key lifetime).trans ?_
    cases place : lifetime.cache? session with
    | none => exact Reaches.refl _
    | some name =>
      dsimp only [Container.settle]
      cases free : ((before.starting key lifetime).cache name).get? key with
      | some first => exact Reaches.refl _
      | none =>
        exact (Step.adopt _ registered ⟨_, session, registered, .inl rfl, place⟩ free).reaches

theorem Course.reaches (course : Course services session before past after) :
    Reaches services session before after := by
  induction course with
  | start session container => exact Reaches.refl container
  | answered _ answers ih => exact ih.trans answers.reaches
  | failed _ _ _ _ _ ih nested =>
    exact (ih.trans (Container.reaches_starting _ _ _)).trans nested.of_builder
  | built _ registered _ _ builds _ settles ih nested =>
    exact ((ih.trans (Container.reaches_starting _ _ _)).trans nested.of_builder).trans
      (reaches_settle_built registered builds settles)

/-- An occurrence lies between two states of a container. -/
structure Within (services : Services σ) (session : Session) (before after : Container σ)
    (occurrence : Occurrence σ) : Prop where
  /-- The first state comes before it. -/
  since : Reaches services session before occurrence.before
  /-- It goes by steps itself. -/
  during : Reaches services session occurrence.before occurrence.after
  /-- Nothing is lost up to the second state, -/
  grows : Grows occurrence.after after
  /-- which comes after it by steps again, unless a new instance still has to be settled. -/
  till : occurrence.deed.isRequest = true → Reaches services session occurrence.after after

theorem Within.widen {occurrence : Occurrence σ} {first last : Container σ}
    (within : Within services session before after occurrence)
    (earlier : Reaches services session first before)
    (later : Reaches services session after last) :
    Within services session first last occurrence :=
  ⟨earlier.trans within.since, within.during, within.grows.trans later.grows,
    fun request => (within.till request).trans later⟩

theorem Within.of_builder {occurrence : Occurrence σ}
    (within : Within services (lifetime.builder session) before after occurrence) :
    Within services session before after occurrence :=
  ⟨within.since.of_builder, within.during.of_builder, within.grows,
    fun request => (within.till request).of_builder⟩

/-- Every occurrence lies between the start and the end of its course. -/
theorem Course.within (course : Course services session before past after) :
    ∀ occurrence ∈ past, Within services session before after occurrence := by
  induction course with
  | start => intro _ mem; cases mem
  | answered course answers ih =>
    intro occurrence mem
    obtain former | here := List.mem_append.mp mem
    · exact (ih occurrence former).widen (Reaches.refl _) answers.reaches
    · obtain rfl := List.mem_singleton.mp here
      exact ⟨course.reaches, answers.reaches, Grows.refl _, fun _ => Reaches.refl _⟩
  | @failed session _ middle _ _ _ key lifetime _ failure course _ _ nested ih inside =>
    have starts : Reaches services session middle _ :=
      Container.reaches_starting middle key lifetime
    have runs := nested.reaches.of_builder
    intro occurrence mem
    obtain former | inner | rfl | rfl := mem_episode mem
    · exact (ih occurrence former).widen (Reaches.refl _) (starts.trans runs)
    · exact (inside occurrence inner).of_builder.widen (course.reaches.trans starts)
        (Reaches.refl _)
    · exact ⟨course.reaches.trans starts, runs, Grows.refl _, fun _ => Reaches.refl _⟩
    · exact ⟨course.reaches, starts.trans runs, Grows.refl _, fun _ => Reaches.refl _⟩
  | @built session _ middle last _ _ key lifetime recipe instance_ _ course registered _ nested
      builds _ settles ih inside =>
    have starts : Reaches services session middle _ :=
      Container.reaches_starting middle key lifetime
    have runs := nested.reaches.of_builder
    have ends := reaches_settle_built registered builds settles
    intro occurrence mem
    obtain former | inner | rfl | rfl := mem_episode mem
    · exact (ih occurrence former).widen (Reaches.refl _) ((starts.trans runs).trans ends)
    · exact (inside occurrence inner).of_builder.widen (course.reaches.trans starts) ends
    · have makes : services.Makes key instance_ := ⟨lifetime, recipe, registered, builds⟩
      refine ⟨course.reaches.trans starts, runs.tail (.build _ makes), ?_, fun request => ?_⟩
      · subst settles
        exact Container.grows_settle _ _ _ _
      · cases request
    · exact ⟨course.reaches, (starts.trans runs).trans ends, Grows.refl _,
        fun _ => Reaches.refl _⟩

/-- A request belongs to the session of its course or to the container itself, and is a course of
its own. -/
theorem Course.request (course : Course services session before past after)
    {occurrence : Occurrence σ} (mem : occurrence ∈ past) {asked : Session} {key : ServiceKey}
    {answer : Except Failure (Option InstanceId)}
    (deed : occurrence.deed = .request asked key answer) :
    (asked = session ∨ asked = .root) ∧ ∃ inner, inner ++ [occurrence] <:+: past ∧
      Course services asked occurrence.before (inner ++ [occurrence]) occurrence.after := by
  induction course with
  | start => cases mem
  | @answered session _ middle _ _ _ _ _ answers ih =>
    obtain former | here := List.mem_append.mp mem
    · obtain ⟨belongs, inner, part, own⟩ := ih former
      exact ⟨belongs, inner, part.trans (List.prefix_append _ _).isInfix, own⟩
    · obtain rfl := List.mem_singleton.mp here
      obtain ⟨rfl, rfl, rfl⟩ := Deed.request.inj deed
      exact ⟨.inl rfl, [], (List.suffix_append _ _).isInfix, .answered (.start _ _) answers⟩
  | @failed session _ middle after past inner key lifetime _ failure _ registered free nested
      ih inside =>
    obtain former | inner_mem | rfl | rfl := mem_episode mem
    · obtain ⟨belongs, inner, part, own⟩ := ih former
      exact ⟨belongs, inner, part.trans (List.prefix_append _ _).isInfix, own⟩
    · obtain ⟨belongs, inner', part, own⟩ := inside inner_mem
      refine ⟨belongs.elim (fun same => same.symm ▸ lifetime.builder_eq session) .inr, inner', ?_,
        own⟩
      exact part.trans ((List.prefix_append _ _).isInfix.trans (List.suffix_append _ _).isInfix)
    · cases deed
    · obtain ⟨rfl, rfl, rfl⟩ := Deed.request.inj deed
      have own := Course.failed failure (.start session middle) registered free nested
      refine ⟨.inl rfl, inner ++ [⟨middle.starting key lifetime,
        .production (lifetime.builder session) key (.error failure), after⟩], ?_, ?_⟩
      · rw [List.append_assoc inner]
        exact (List.suffix_append _ _).isInfix
      · rwa [List.append_assoc]
  | @built session _ middle last past inner key lifetime _ instance_ _ _ registered free nested
      builds given settles ih inside =>
    obtain former | inner_mem | rfl | rfl := mem_episode mem
    · obtain ⟨belongs, inner, part, own⟩ := ih former
      exact ⟨belongs, inner, part.trans (List.prefix_append _ _).isInfix, own⟩
    · obtain ⟨belongs, inner', part, own⟩ := inside inner_mem
      refine ⟨belongs.elim (fun same => same.symm ▸ lifetime.builder_eq session) .inr, inner', ?_,
        own⟩
      exact part.trans ((List.prefix_append _ _).isInfix.trans (List.suffix_append _ _).isInfix)
    · cases deed
    · obtain ⟨rfl, rfl, rfl⟩ := Deed.request.inj deed
      have own := Course.built (.start session middle) registered free nested builds given settles
      refine ⟨.inl rfl, inner ++ [⟨middle.starting key lifetime,
        .production (lifetime.builder session) key (.ok (last.allocate instance_).1),
        (last.allocate instance_).2⟩], ?_, ?_⟩
      · rw [List.append_assoc inner]
        exact (List.suffix_append _ _).isInfix
      · rwa [List.append_assoc]

theorem AnswersAtOnce.answers {object : InstanceId}
    (answers : AnswersAtOnce services session key before (.ok (some object)) after) :
    ∃ registration, services.get? key = some registration ∧
      Answers services session key registration before after object := by
  generalize result : (Except.ok (some object) : Except Failure (Option InstanceId)) = answer
    at answers
  cases answers with
  | absent => cases result
  | @shared registration _ registered held =>
    cases result
    refine ⟨registration, registered, ?_⟩
    rw [Answers]
    cases place : registration.lifetime.cache? session with
    | none =>
      rw [Container.shared?, place] at held
      cases held
    | some name =>
      rw [Container.shared?, place] at held
      exact fun _ => held
  | @existing lifetime given _ registered settles =>
    cases result
    refine ⟨_, registered, ?_⟩
    rw [Answers]
    cases lifetime with
    | singleton => exact fun present => Container.held_settle settles present
    | transient =>
      subst settles
      exact ⟨rfl, rfl⟩
    | _ => exact fun present => Container.held_settle settles present

/-- A factory that built an instance answers its request. -/
theorem answers_built {recipe : Recipe σ} {instance_ : Instance σ}
    {settled : InstanceId × Container σ}
    (nested : Reaches services (lifetime.builder session) (before.starting key lifetime) middle)
    (builds : recipe.Builds instance_.typeName instance_.content)
    (settles : (middle.allocate instance_).2.settle (lifetime.cache? session) key
      (middle.allocate instance_).1 = settled) :
    Answers services session key ⟨lifetime, .factory recipe⟩ before settled.2 settled.1 := by
  rw [Answers]
  have starts : Reaches services session before _ :=
    Container.reaches_starting before key lifetime
  have grows := (starts.trans nested.of_builder).grows
  cases lifetime with
  | transient =>
    subst settles
    exact ⟨middle, instance_, nested, builds, rfl, rfl⟩
  | singleton =>
    exact fun present => Container.held_settle settles ((grows.hasCache_iff _).mpr present)
  | _ => exact fun present => Container.held_settle settles ((grows.hasCache_iff _).mpr present)

/-- Every request of a course that is answered with an instance is answered as the lifetime of the
service says. -/
theorem Course.answers (course : Course services session before past after)
    {occurrence : Occurrence σ} (mem : occurrence ∈ past) {asked : Session} {key : ServiceKey}
    {object : InstanceId} (deed : occurrence.deed = .request asked key (.ok (some object))) :
    ∃ registration, services.get? key = some registration ∧
      Answers services asked key registration occurrence.before occurrence.after object := by
  induction course with
  | start => cases mem
  | answered _ answers ih =>
    obtain former | here := List.mem_append.mp mem
    · exact ih former
    · obtain rfl := List.mem_singleton.mp here
      obtain ⟨rfl, rfl, rfl⟩ := Deed.request.inj deed
      exact answers.answers
  | failed _ _ _ _ _ ih inside =>
    obtain former | inner | rfl | rfl := mem_episode mem
    · exact ih former
    · exact inside inner
    · cases deed
    · cases deed
  | built _ registered _ nested builds _ settles ih inside =>
    obtain former | inner | rfl | rfl := mem_episode mem
    · exact ih former
    · exact inside inner
    · cases deed
    · cases deed
      exact ⟨_, registered, answers_built nested.reaches builds settles⟩

end Resolution

open Container (Passes Keeps Moves)

/-- Instances of a key are built on every request. -/
def Services.IsFresh (services : Services σ) (key : ServiceKey) : Prop :=
  ∃ recipe, services.get? key = some ⟨.transient, .factory recipe⟩

namespace Occurrence

/-- An occurrence comes after a state of the container. -/
structure IsSince (services : Services σ) (container : Container σ) (occurrence : Occurrence σ) :
    Prop where
  /-- The state passes into the one before it. -/
  since : Passes services container occurrence.before
  /-- It passes from one state to another itself. -/
  during : Passes services occurrence.before occurrence.after
  /-- An instance that is built on the request is new. -/
  fresh : ∀ {session key object}, occurrence.deed = .request session key (.ok (some object)) →
    services.IsFresh key →
    occurrence.before.instances.length ≤ object.index ∧
      object.index < occurrence.after.instances.length

/-- An occurrence comes before a state of the container. -/
structure IsUntil (services : Services σ) (occurrence : Occurrence σ) (container : Container σ) :
    Prop where
  /-- What lives is kept. -/
  keeps : Keeps occurrence.after container
  /-- The occurrence passes into it, unless a new instance still has to be settled. -/
  moves : occurrence.deed.isRequest = true → Moves services occurrence.after container

/-- An occurrence ends before another one does. -/
structure Precedes (services : Services σ) (first second : Occurrence σ) : Prop
    extends first.IsUntil services second.after where
  /-- An instance that is built on the later request was not there when the earlier one ended. -/
  fresh : first.deed.isRequest = true → ∀ {session key object},
    second.deed = .request session key (.ok (some object)) → services.IsFresh key →
    first.after.instances.length ≤ object.index

variable {first second : Occurrence σ} {container later : Container σ}

theorem IsSince.of_passes (since : second.IsSince services later)
    (passes : Passes services container later) : second.IsSince services container :=
  ⟨passes.trans since.since, since.during, since.fresh⟩

theorem IsUntil.passes (until_ : first.IsUntil services container)
    (passes : Passes services container later) : first.IsUntil services later :=
  ⟨until_.keeps.trans passes.keeps, fun request => (until_.moves request).trans passes.moves⟩

/-- What ends before a state precedes what comes after it. -/
theorem IsUntil.precedes (until_ : first.IsUntil services container)
    (since : second.IsSince services container) : first.Precedes services second where
  toIsUntil := until_.passes (since.since.trans since.during)
  fresh := fun _ _ _ _ deed isFresh =>
    Nat.le_trans (until_.keeps.trans since.since.keeps).later.instances
      (since.fresh deed isFresh).1

end Occurrence

namespace Resolution

open Occurrence (IsSince IsUntil Precedes)
open Container (Step)

variable {session : Session} {before middle after : Container σ} {past : List (Occurrence σ)}
  {key : ServiceKey} {lifetime : Lifetime}

theorem Course.isSince (course : Course services session before past after)
    {occurrence : Occurrence σ} (mem : occurrence ∈ past) :
    occurrence.IsSince services before := by
  have within := course.within occurrence mem
  refine ⟨within.since.passes, within.during.passes, fun {asked key object} deed isFresh => ?_⟩
  obtain ⟨recipe, fresh⟩ := isFresh
  obtain ⟨registration, registered, answers⟩ := course.answers mem deed
  rw [fresh] at registered
  obtain rfl := Option.some.inj registered
  obtain ⟨last, built, reaches, -, rfl, ends⟩ := answers
  refine ⟨reaches.grows.instances.length_le, ?_⟩
  rw [ends]
  simp [Container.allocate]

theorem Course.isUntil (course : Course services session before past after)
    {occurrence : Occurrence σ} (mem : occurrence ∈ past) :
    occurrence.IsUntil services after := by
  have within := course.within occurrence mem
  exact ⟨within.grows.keeps, fun request => (within.till request).moves⟩

/-- The occurrences of a course stand in the order in which they end. -/
theorem Course.ordered (course : Course services session before past after) :
    past.Pairwise (Precedes services) := by
  induction course with
  | start => exact .nil
  | answered course answers ih =>
    have new := (Course.start _ _).answered answers
    exact List.pairwise_append.mpr ⟨ih, List.pairwise_singleton _ _,
      fun first former second here => (course.isUntil former).precedes (new.isSince here)⟩
  | failed failure course registered free nested ih inside =>
    have new := (Course.start _ _).failed failure registered free nested
    refine List.pairwise_append.mpr ⟨ih, ?_, fun first former second here =>
      (course.isUntil former).precedes (new.isSince here)⟩
    refine List.pairwise_append.mpr ⟨inside, List.pairwise_pair.mpr ?_,
      fun first mem second last => ?_⟩
    · exact ⟨⟨Keeps.refl _, fun request => nomatch request⟩, fun request => nomatch request⟩
    · simp only [List.mem_cons, List.not_mem_nil, or_false] at last
      obtain rfl | rfl := last
      · exact ⟨nested.isUntil mem, fun _ _ _ _ deed => nomatch deed⟩
      · exact ⟨nested.isUntil mem, fun _ _ _ _ deed => nomatch deed⟩
  | @built session _ _ last _ _ _ lifetime recipe instance_ _ course registered free nested builds
      given settles ih inside =>
    have new := (Course.start _ _).built registered free nested builds given settles
    refine List.pairwise_append.mpr ⟨ih, ?_, fun first former second here =>
      (course.isUntil former).precedes (new.isSince here)⟩
    have step : Step services session last (last.allocate instance_).2 :=
      .build last ⟨lifetime, recipe, registered, builds⟩
    refine List.pairwise_append.mpr ⟨inside, List.pairwise_pair.mpr ?_,
      fun first mem second last_mem => ?_⟩
    · refine ⟨⟨?_, fun request => nomatch request⟩, fun request => nomatch request⟩
      subst settles
      exact (Container.grows_settle _ _ _ _).keeps
    have former := nested.isUntil mem
    simp only [List.mem_cons, List.not_mem_nil, or_false] at last_mem
    obtain rfl | rfl := last_mem
    · exact ⟨former.passes step.reaches.passes, fun _ _ _ _ deed => nomatch deed⟩
    · have ends := (reaches_settle_built registered builds settles).passes
      refine ⟨former.passes ends, fun _ asked query object deed isFresh => ?_⟩
      -- the instance was built after everything that the factory asked for
      obtain ⟨recipe', fresh⟩ := isFresh
      cases deed
      rw [registered] at fresh
      cases fresh
      subst settles
      exact former.keeps.later.instances

end Resolution

end ServiceDispatch
