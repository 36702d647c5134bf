import ServiceDispatch.Proofs.Host.Attendance
import ServiceDispatch.Proofs.Host.Injections

/-!
# Courses of hosts

A host together with all that callers do to it, from the moment it was opened: how it stands before
each command, and which command has opened a channel. Channels go by the numbers in which they were
opened, since names are used again. Two channels never have the same scope, not even one after the
other.
-/

namespace ServiceDispatch

variable {σ : Type}

open Container (Moves Orderly)

/-- Noting commands makes no difference to the switchboard. -/
theorem Attendance.fst_foldl_attend (spec : HostSpec σ) (run : Switchboard σ × Attendance)
    (commands : List Switchboard.Command) :
    (commands.foldl (attend spec) run).1 = run.1.after commands := by
  induction commands generalizing run with
  | nil => rfl
  | cons command rest ih => exact ih (attend spec run command)

/-- A channel that is open after a command was open before it and is recorded as it was, or the
command has opened it and it is recorded under the next number. -/
theorem Switchboard.Executes.recorded {board : Switchboard σ} {command : Command}
    {result : Except Failure Answer × Switchboard σ} (executes : board.Executes command result)
    (spec : HostSpec σ) (services : Services σ) (attendance : Attendance) {name : String}
    {channel : Channel} (found : result.2.channels.get? name = some channel) :
    (board.channels.get? name = some channel ∧
        (attendance.record spec services command result.1).channels.get? name =
          attendance.channels.get? name) ∨
      ∃ address after, command = .openChannel name address ∧
        (board.host.openChannel address).run board.services board.state = (.ok channel, after) ∧
        (attendance.record spec services command result.1).channels.get? name =
          some (attendance.opened, address) := by
  cases executes with
  | refused | unsent | absent => exact .inl ⟨found, rfl⟩
  | @called name' channel' message result after here calling =>
    cases result with
    | error failure => exact .inl ⟨found, rfl⟩
    | ok outcome => exact .inl ⟨found, rfl⟩
  | @opened name' address channel' after connecting free =>
    simp only [Attendance.record, Keyed.get?_insert] at found ⊢
    by_cases same : name' = name
    · subst same
      rw [if_pos rfl] at found ⊢
      obtain rfl := Option.some.inj found
      exact .inr ⟨address, after, rfl, connecting, rfl⟩
    · rw [if_neg same] at found ⊢
      exact .inl ⟨found, rfl⟩
  | @replaced name' address channel' former after connecting used =>
    simp only [Attendance.record, Keyed.get?_insert] at found ⊢
    by_cases same : name' = name
    · subst same
      rw [if_pos rfl] at found ⊢
      obtain rfl := Option.some.inj found
      exact .inr ⟨address, after, rfl, connecting, rfl⟩
    · rw [if_neg same] at found ⊢
      rw [Keyed.get?_erase, if_neg same] at found
      exact .inl ⟨found, rfl⟩
  | @closed name' channel' here =>
    simp only [Attendance.record, Keyed.get?_erase] at found ⊢
    split at found
    · cases found
    · rename_i other
      exact .inl ⟨found, if_neg other⟩

/-- A host that was opened over a container of its own, and all that callers do to it. -/
structure Course (σ : Type) where
  /-- What the host was opened from. -/
  spec : HostSpec σ
  /-- The registry shared by all hosts. -/
  shared : AdapterRegistry σ
  /-- The registrations. -/
  services : Services σ
  /-- The state over which the host was opened. -/
  start : ServiceState σ
  /-- The host. -/
  host : Host σ
  /-- The state once it was open. -/
  opened : ServiceState σ
  /-- The wrappers that stand behind its adapters, by key. -/
  wrapper? : String → Option (Wrapper σ)
  /-- The commands in the order in which they are carried out. -/
  commands : List Switchboard.Command
  /-- The container had not been asked for anything. -/
  unused : start.container.IsUnused
  /-- The host could be opened. -/
  opening : (Host.openWith spec shared).run services start = (.ok host, opened)
  /-- What adapters call behaves. -/
  wired : host.registry.IsWired services wrapper?

namespace Course

/-- The switchboard before the command at a place. -/
def board (course : Course σ) (place : Nat) : Switchboard σ :=
  (Switchboard.start course.host course.services course.opened).after (course.commands.take place)

/-- The container before the command at a place. -/
def container (course : Course σ) (place : Nat) : Container σ :=
  (course.board place).state.container

/-- The record before the command at a place. -/
def attendance (course : Course σ) (place : Nat) : Attendance :=
  (Attendance.after course.spec course.services course.host course.opened
    (course.commands.take place)).2

variable {course : Course σ} {place later origin origin' : Nat} {channel channel' : Channel}

theorem uses (course : Course σ) (place : Nat) :
    (course.board place).Uses course.spec course.services course.host :=
  Switchboard.uses_after course.opening _

theorem balance (course : Course σ) (place : Nat) :
    Channel.Balance (course.board place).channels course.opened.container
      (course.container place) :=
  Host.balance_after course.unused course.opening course.wired.isDiscreet _

/-- A command leads to the next place, and what it has answered is noted. -/
theorem executes {command : Switchboard.Command}
    (asks : course.commands[place]? = some command) :
    ∃ result, (course.board place).Executes command result ∧
      course.board (place + 1) = result.2 ∧
      course.attendance (place + 1) =
        (course.attendance place).record course.spec course.services command result.1 := by
  have same : (Attendance.after course.spec course.services course.host course.opened
      (course.commands.take place)).1 = course.board place :=
    Attendance.fst_foldl_attend _ _ _
  refine ⟨_, (course.board place).executes command, ?_, ?_⟩
  · rw [board, List.take_add_one, asks, Switchboard.after, List.foldl_append]
    rfl
  · rw [attendance, Attendance.after, List.take_add_one, asks, List.foldl_append]
    change (Attendance.attend course.spec (Attendance.after _ _ _ _ _) command).2 = _
    rw [Attendance.attend, same, (course.uses place).sameServices]
    rfl

/-- After the last command nothing changes. -/
theorem stays (ended : course.commands[place]? = none) :
    course.board (place + 1) = course.board place ∧
      course.attendance (place + 1) = course.attendance place := by
  rw [board, board, attendance, attendance, List.take_add_one, ended, Option.toList_none,
    List.append_nil]
  exact ⟨rfl, rfl⟩

/-- Everything goes by moves. -/
theorem moves (course : Course σ) {place later : Nat} (before : place ≤ later) :
    Moves course.services (course.container place) (course.container later) := by
  induction later, before using Nat.le_induction with
  | base => exact Moves.refl _
  | succ later _ ih =>
    refine ih.trans ?_
    rw [container, container]
    cases asks : course.commands[later]? with
    | none =>
      rw [(stays asks).1]
      exact Moves.refl _
    | some command =>
      obtain ⟨result, executes, next, -⟩ := executes asks
      rw [next]
      exact executes.moves course.wired course.opening (course.uses later)

theorem orderly (course : Course σ) (place : Nat) :
    Orderly course.services (course.container place) := by
  have first : Orderly course.services course.opened.container :=
    Host.openWith_induction (fun orderly => orderly.relog _)
      (fun orderly steps => steps.orderly orderly) course.unused.orderly course.opening
  exact (course.moves (Nat.zero_le place)).orderly first

/-- The number of opened channels never falls. -/
theorem opened_le (course : Course σ) {place later : Nat} (before : place ≤ later) :
    (course.attendance place).opened ≤ (course.attendance later).opened := by
  induction later, before using Nat.le_induction with
  | base => exact Nat.le_refl _
  | succ later _ ih =>
    refine Nat.le_trans ih ?_
    cases asks : course.commands[later]? with
    | none => rw [(stays asks).2]
    | some command =>
      obtain ⟨result, -, -, noted⟩ := executes asks
      rw [noted]
      unfold Attendance.record
      split
      · exact Nat.le_succ _
      · exact Nat.le_refl _
      · exact Nat.le_refl _
      · exact Nat.le_refl _

/-- The command at a place opens a channel. -/
structure Opens (course : Course σ) (origin : Nat) (channel : Channel) : Prop where
  /-- It asks for the address. -/
  asks : ∃ name, course.commands[origin]? = some (.openChannel name channel.address)
  /-- The host connects. -/
  connects : ∃ after, (course.host.openChannel channel.address).run course.services
    (course.board origin).state = (.ok channel, after)

/-- A channel that is open was opened by some command before, and is recorded with the number that
was next then. -/
theorem opener (course : Course σ) {place : Nat} {name : String} {channel : Channel}
    (found : (course.board place).channels.get? name = some channel) :
    ∃ origin < place, course.Opens origin channel ∧
      (course.attendance place).channels.get? name =
        some ((course.attendance origin).opened, channel.address) := by
  induction place generalizing name channel with
  | zero => cases found
  | succ place ih =>
    have former : (course.board place).channels.get? name = some channel →
        ∃ origin < place + 1, course.Opens origin channel ∧
          (course.attendance place).channels.get? name =
            some ((course.attendance origin).opened, channel.address) := by
      intro found
      obtain ⟨origin, earlier, opens, numbered⟩ := ih found
      exact ⟨origin, Nat.lt_succ_of_lt earlier, opens, numbered⟩
    cases asks : course.commands[place]? with
    | none =>
      rw [(stays asks).1] at found
      rw [(stays asks).2]
      exact former found
    | some command =>
      obtain ⟨result, executes, next, noted⟩ := executes asks
      rw [next] at found
      rw [noted]
      obtain ⟨here, same⟩ | ⟨address, after, rfl, connecting, numbered⟩ :=
        executes.recorded course.spec course.services (course.attendance place) found
      · rw [same]
        exact former here
      · rw [(course.uses place).sameHost, (course.uses place).sameServices] at connecting
        have connects := course.host.connects course.services address (course.board place).state
        rw [connecting] at connects
        have led : channel.address = address := by cases connects <;> rfl
        subst led
        exact ⟨place, Nat.lt_succ_self _, ⟨⟨name, asks⟩, after, connecting⟩, numbered⟩

namespace Opens

/-- The command opens one channel. -/
theorem unique (opens : course.Opens origin channel) (opens' : course.Opens origin channel') :
    channel = channel' := by
  obtain ⟨⟨name, asks⟩, after, connects⟩ := opens
  obtain ⟨⟨name', asks'⟩, after', connects'⟩ := opens'
  obtain ⟨-, same⟩ := Switchboard.Command.openChannel.inj (Option.some.inj (asks.symm.trans asks'))
  rw [← same, connects] at connects'
  exact Except.ok.inj (Prod.mk.inj connects').1

/-- The host has a channel more, which makes its next number a new one, and the state in which it
connected goes on to the next place. -/
theorem next (opens : course.Opens origin channel) :
    (course.attendance (origin + 1)).opened = (course.attendance origin).opened + 1 ∧
      ∃ after, (course.host.openChannel channel.address).run course.services
          (course.board origin).state = (.ok channel, after) ∧
        Moves course.services after.container (course.container (origin + 1)) := by
  obtain ⟨⟨name, asks⟩, after, connects⟩ := opens
  obtain ⟨result, executes, next, noted⟩ := executes asks
  rw [noted, container, next]
  have host := (course.uses origin).sameHost
  have services := (course.uses origin).sameServices
  cases executes with
  | refused connecting =>
    rw [host, services, connects] at connecting
    cases connecting
  | opened connecting =>
    rw [host, services, connects] at connecting
    obtain ⟨-, rfl⟩ := Prod.mk.inj connecting
    exact ⟨rfl, after, connects, Moves.refl _⟩
  | replaced connecting used =>
    rw [host, services, connects] at connecting
    obtain ⟨-, rfl⟩ := Prod.mk.inj connecting
    exact ⟨rfl, after, connects, (Moves.refl _).closeChannel _⟩

/-- Channels that were opened by different commands have different numbers. -/
theorem eq_of_number (opens : course.Opens origin channel) (opens' : course.Opens origin' channel')
    (same : (course.attendance origin).opened = (course.attendance origin').opened) :
    origin = origin' := by
  have apart : ∀ {first second channel}, course.Opens first channel → first < second →
      (course.attendance first).opened < (course.attendance second).opened := by
    intro first second channel opens before
    have counted := opens.next.1
    have kept := course.opened_le (Nat.add_one_le_iff.mpr before)
    omega
  obtain before | here | after := Nat.lt_trichotomy origin origin'
  · have less := apart opens before
    omega
  · exact here
  · have less := apart opens' after
    omega

/-- The scope of a channel was the next one when the channel was opened. -/
theorem scope (opens : course.Opens origin channel) {id : ScopeId}
    (keeps : channel.scope? = some id) :
    id = (course.container origin).nextScope ∧
      id.index < (course.container (origin + 1)).openness.length := by
  obtain ⟨-, after, connects, moves⟩ := opens.next
  obtain ⟨described, endpoint, leads⟩ := Host.leadsTo_of_openChannel course.opening connects
  have connected := course.host.connects course.services channel.address (course.board origin).state
  rw [connects] at connected
  obtain ⟨bare, -⟩ | ⟨here, opened⟩ := connected.scopes leads
  · rw [bare] at keeps
    cases keeps
  · obtain rfl := Option.some.inj (here.symm.trans keeps)
    have there := (List.getElem?_eq_some_iff.mp opened.getElem?_nextScope).1
    exact ⟨rfl, Nat.lt_of_lt_of_le there moves.later.scopes⟩

/-- Channels that were opened by different commands have different scopes. -/
theorem eq_of_scope (opens : course.Opens origin channel) (opens' : course.Opens origin' channel')
    {id : ScopeId} (keeps : channel.scope? = some id) (keeps' : channel'.scope? = some id) :
    origin = origin' := by
  have apart : ∀ {first second former latter}, course.Opens first former →
      course.Opens second latter → first < second → former.scope? = some id →
      latter.scope? ≠ some id := by
    intro first second former latter opens opens' before keeps keeps'
    have there := (opens.scope keeps).2
    have grown := (course.moves (Nat.add_one_le_iff.mpr before)).later.scopes
    rw [(opens'.scope keeps').1, Container.nextScope_index] at there
    omega
  obtain before | here | after := Nat.lt_trichotomy origin origin'
  · exact absurd keeps' (apart opens opens' before keeps)
  · exact here
  · exact absurd keeps (apart opens' opens after keeps')

end Opens

end Course

end ServiceDispatch
