import ServiceDispatch.Proofs.Container.Timeline

/-!
# Commands and histories

What holds of every course of requests, for whole histories of commands: their occurrences stand in
the order in which they end, each of them lies between the start and the end, and a request is made
to a session that is open.
-/

namespace ServiceDispatch

variable {σ : Type} {services : Services σ}

namespace Container

open Resolution (Course Answers)

variable {container : Container σ} {command : Command} {commands : List Command}
  {occurrence : Occurrence σ}

/-- What happens when a session is asked for a service is a course of requests. -/
theorem course_resolve (services : Services σ) (container : Container σ) (session : Session)
    (key : ServiceKey) :
    Course services session container ((Command.resolve session key).occurrences services container)
      ((Command.resolve session key).after services container) := by
  have course := Resolution.course_requested
    (Resolution.makesByCourse_makeWithin services services.size) session key container
  rwa [← Resolution.run_findAny] at course

namespace Command

theorem passes (services : Services σ) (container : Container σ) (command : Command) :
    Passes services container (command.after services container) := by
  cases command with
  | openScope => exact Passes.openScope container
  | resolve session key => exact (course_resolve services container session key).reaches.passes
  | releaseScope scope => exact Passes.releaseScope container scope

theorem isSince (mem : occurrence ∈ command.occurrences services container) :
    occurrence.IsSince services container := by
  cases command with
  | openScope =>
    obtain rfl := List.mem_singleton.mp mem
    exact ⟨Passes.refl _, Passes.openScope container, fun deed => nomatch deed⟩
  | resolve session key => exact (course_resolve services container session key).isSince mem
  | releaseScope scope =>
    obtain rfl := List.mem_singleton.mp mem
    exact ⟨Passes.refl _, Passes.releaseScope container scope, fun deed => nomatch deed⟩

theorem isUntil (mem : occurrence ∈ command.occurrences services container) :
    occurrence.IsUntil services (command.after services container) := by
  cases command with
  | resolve session key => exact (course_resolve services container session key).isUntil mem
  | openScope | releaseScope scope =>
    obtain rfl := List.mem_singleton.mp mem
    exact ⟨Keeps.refl _, fun request => nomatch request⟩

theorem ordered (services : Services σ) (container : Container σ) (command : Command) :
    (command.occurrences services container).Pairwise (Occurrence.Precedes services) := by
  cases command with
  | resolve session key => exact (course_resolve services container session key).ordered
  | openScope | releaseScope scope => exact List.pairwise_singleton _ _

end Command

theorem passes_afterAll (services : Services σ) (container : Container σ)
    (commands : List Command) :
    Passes services container (afterAll services container commands) := by
  induction commands generalizing container with
  | nil => exact Passes.refl container
  | cons command rest ih => exact (command.passes services container).trans (ih _)

theorem isSince_history (mem : occurrence ∈ history services container commands) :
    occurrence.IsSince services container := by
  induction commands generalizing container with
  | nil => cases mem
  | cons command rest ih =>
    obtain here | later := List.mem_append.mp mem
    · exact command.isSince here
    · exact (ih later).of_passes (command.passes services container)

theorem isUntil_history (mem : occurrence ∈ history services container commands) :
    occurrence.IsUntil services (afterAll services container commands) := by
  induction commands generalizing container with
  | nil => cases mem
  | cons command rest ih =>
    obtain here | later := List.mem_append.mp mem
    · exact (command.isUntil here).passes (passes_afterAll services _ rest)
    · exact ih later

/-- The occurrences of a history stand in the order in which they end. -/
theorem ordered_history (services : Services σ) (container : Container σ)
    (commands : List Command) :
    (history services container commands).Pairwise (Occurrence.Precedes services) := by
  induction commands generalizing container with
  | nil => exact .nil
  | cons command rest ih =>
    refine List.pairwise_append.mpr ⟨command.ordered services container, ih _,
      fun first here second later => ?_⟩
    exact (command.isUntil here).precedes (isSince_history later)

/-- Every occurrence belongs to a command that was possible when its turn came. -/
theorem command_of_mem_history (admits : Admits services container commands)
    (mem : occurrence ∈ history services container commands) :
    ∃ (middle : Container σ) (command : Command), command.IsPossible middle ∧
      occurrence ∈ command.occurrences services middle ∧
      command.occurrences services middle <:+: history services container commands := by
  induction commands generalizing container with
  | nil => cases mem
  | cons command rest ih =>
    obtain here | later := List.mem_append.mp mem
    · exact ⟨container, command, admits.1, here, (List.prefix_append _ _).isInfix⟩
    · obtain ⟨middle, command', possible, inside, part⟩ := ih admits.2 later
      exact ⟨middle, command', possible, inside, part.trans (List.suffix_append _ _).isInfix⟩

variable {session : Session} {key : ServiceKey} {answer : Except Failure (Option InstanceId)}

/-- Every request belongs to a course of an open session. -/
theorem course_of_request (admits : Admits services container commands)
    (mem : occurrence ∈ history services container commands)
    (deed : occurrence.deed = .request session key answer) :
    ∃ asked middle past after, Session.IsOpen middle asked ∧
      Course services asked middle past after ∧ occurrence ∈ past ∧
      past <:+: history services container commands := by
  obtain ⟨middle, command, possible, inside, part⟩ := command_of_mem_history admits mem
  cases command with
  | resolve asked asked_key =>
    exact ⟨asked, middle, _, _, possible, course_resolve services middle asked asked_key, inside,
      part⟩
  | openScope | releaseScope scope =>
    obtain rfl := List.mem_singleton.mp inside
    cases deed

/-- A request is made to an open session, and leaves it open. -/
theorem isOpen_of_request (admits : Admits services container commands)
    (mem : occurrence ∈ history services container commands)
    (deed : occurrence.deed = .request session key answer) :
    session.IsOpen occurrence.before ∧ session.IsOpen occurrence.after := by
  obtain ⟨asked, middle, past, after, isOpen, course, inside, -⟩ :=
    course_of_request admits mem deed
  obtain rfl | rfl := (course.request inside deed).1
  · have within := course.within occurrence inside
    have same : occurrence.before.openness = middle.openness := within.since.grows.scopes
    have still : occurrence.after.openness = occurrence.before.openness :=
      within.during.grows.scopes
    cases session with
    | root => exact ⟨trivial, trivial⟩
    | scope id =>
      rw [Session.IsOpen, Session.IsOpen, still, same]
      exact ⟨isOpen, isOpen⟩
  · exact ⟨trivial, trivial⟩

/-- A request that is answered with an instance is answered as the lifetime of the service says. -/
theorem answers_of_request (admits : Admits services container commands)
    (mem : occurrence ∈ history services container commands) {object : InstanceId}
    (deed : occurrence.deed = .request session key (.ok (some object))) :
    ∃ registration, services.get? key = some registration ∧
      Answers services session key registration occurrence.before occurrence.after object := by
  obtain ⟨asked, middle, past, after, -, course, inside, -⟩ := course_of_request admits mem deed
  exact course.answers inside deed

end Container

end ServiceDispatch
