import ServiceDispatch.Host.Switchboard
import ServiceDispatch.Proofs.Host.Activation
import ServiceDispatch.Sample.Counting

/-!
# Who is counted with whom

A record of what callers did to an opened host, from which it can be told what a counting operation
has to answer. Successful calls are noted by group: calls of one group are served by one instance.
The record knows registrations, declarations and bindings but nothing of instances; which instance a
group has is the seating, and the lemmas here say what keeps it.
-/

namespace ServiceDispatch

open Sample (Content)

/-- Whose calls are served by one instance. -/
inductive Group where
  /-- All calls of a registered service, through whatever endpoints. -/
  | registration (service : ServiceKey)
  /-- All calls of an endpoint. -/
  | endpoint (address : String)
  /-- All calls through one channel. -/
  | channel (number : Nat)
  /-- One call alone. -/
  | call (number : Nat)
  deriving DecidableEq, Repr

namespace EndpointSpec

variable {σ : Type}

/-- The group of a call at an endpoint, given the lifetime of the service and the numbers of channel
and call. -/
def group (spec : EndpointSpec σ) (default : InstanceMode) (lifetime : Lifetime)
    (channel call : Nat) : Group :=
  match lifetime with
  | .singleton | .scoped => .registration spec.service
  | .transient =>
    match spec.declaredMode default with
    | .single => .endpoint spec.address
    | .perSession => if spec.binding.sessionful then .channel channel else .call call
    | .perCall => .call call

variable {spec : EndpointSpec σ} {default : InstanceMode} {lifetime : Lifetime}

/-- An instance of its own for each call means that the call is counted alone. -/
theorem group_of_perCall (mode : spec.mode default lifetime = .perCall) (channel call : Nat) :
    lifetime = .transient ∧ spec.group default lifetime channel call = .call call := by
  cases sessionful : spec.binding.sessionful <;> cases declared : spec.declaredMode default <;>
    cases lifetime <;>
    simp [EndpointSpec.mode, InstanceMode.effective, InstanceMode.withoutSessions, group,
      sessionful, declared] at mode ⊢

/-- An instance for each session means that the calls of a channel are counted together. -/
theorem group_of_perSession (mode : spec.mode default lifetime = .perSession)
    (channel call : Nat) :
    lifetime = .transient ∧ spec.group default lifetime channel call = .channel channel := by
  cases sessionful : spec.binding.sessionful <;> cases declared : spec.declaredMode default <;>
    cases lifetime <;>
    simp [EndpointSpec.mode, InstanceMode.effective, InstanceMode.withoutSessions, group,
      sessionful, declared] at mode ⊢

/-- One instance for all calls means that they are counted by service, or by endpoint if the
container builds an instance on every request. -/
theorem group_of_single (mode : spec.mode default lifetime = .single) (channel call : Nat) :
    spec.group default lifetime channel call =
      if lifetime = .transient then .endpoint spec.address else .registration spec.service := by
  cases sessionful : spec.binding.sessionful <;> cases declared : spec.declaredMode default <;>
    cases lifetime <;>
    simp [EndpointSpec.mode, InstanceMode.effective, InstanceMode.withoutSessions, group,
      sessionful, declared] at mode ⊢

end EndpointSpec

/-- What callers did so far. -/
structure Attendance where
  /-- Number of channels opened so far. -/
  opened : Nat
  /-- Number and address of each open channel, by name. -/
  channels : Keyed String (Nat × String)
  /-- The group of each successful call, in order. -/
  served : List Group

namespace Attendance

variable {σ : Type}

/-- Nothing done. -/
def none : Attendance := ⟨0, .empty, []⟩

/-- The group of a call through the channel of a name, if it were the next successful one. -/
def group? (attendance : Attendance) (spec : HostSpec σ) (services : Services σ)
    (name : String) : Option Group := do
  let (number, address) ← attendance.channels.get? name
  let endpoint ← spec.endpoints.find? fun endpoint => endpoint.address = address
  let lifetime ← services.lifetime? endpoint.service
  return endpoint.group spec.settings.host.defaultMode lifetime number attendance.served.length

/-- Notes a command that was answered. -/
def record (attendance : Attendance) (spec : HostSpec σ) (services : Services σ) :
    Switchboard.Command → Except Failure Switchboard.Answer → Attendance
  | .openChannel name address, .ok (.opened _) =>
    { attendance with
      opened := attendance.opened + 1
      channels := attendance.channels.insert name (attendance.opened, address) }
  | .call name _, .ok (.served _) =>
    { attendance with
      served := attendance.served ++ (attendance.group? spec services name).toList }
  | .close name, .ok .closed => { attendance with channels := attendance.channels.erase name }
  | _, _ => attendance

/-- Carries a command out and notes it. -/
def attend (spec : HostSpec σ) (run : Switchboard σ × Attendance) (command : Switchboard.Command) :
    Switchboard σ × Attendance :=
  ((run.1.execute command).2,
    run.2.record spec run.1.services command (run.1.execute command).1)

/-- What has become of a host that was just opened, and of the record, after some commands. -/
def after (spec : HostSpec σ) (services : Services σ) (host : Host σ) (opened : ServiceState σ)
    (commands : List Switchboard.Command) : Switchboard σ × Attendance :=
  commands.foldl (attend spec) (⟨host, services, .empty, opened⟩, .none)

end Attendance

/-- Which instance each group has, where it has one for longer than a call: different groups have
different instances, and each has counted the calls of its group. -/
structure Seating (seat : Group → InstanceId → Prop) (container : Container Content)
    (attendance : Attendance) : Prop where
  /-- A group has one instance. -/
  functional : ∀ {group object object'}, seat group object → seat group object' → object = object'
  /-- An instance has one group. -/
  injective : ∀ {group group' object}, seat group object → seat group' object → group = group'
  /-- Instances count the calls of their groups. -/
  counts : ∀ {group object}, seat group object →
    container.content? object = some (.counter (attendance.served.count group))
  /-- Channels that have an instance were opened. -/
  channels : ∀ {number object}, seat (.channel number) object → number < attendance.opened
  /-- A call that is counted alone keeps no instance. -/
  calls : ∀ {number object}, ¬ seat (.call number) object
  /-- Channels that were used were opened. -/
  used : ∀ {number}, Group.channel number ∈ attendance.served → number < attendance.opened
  /-- Calls that were counted alone have been made. -/
  made : ∀ {number}, Group.call number ∈ attendance.served → number < attendance.served.length

namespace Seating

variable {seat : Group → InstanceId → Prop} {before after : Container Content}
  {attendance : Attendance}

/-- An instance that has a seat exists. -/
theorem index_lt (seating : Seating seat before attendance) {group : Group} {object : InstanceId}
    (sits : seat group object) : object.index < before.instances.length := by
  obtain ⟨built, here, -⟩ := Option.map_eq_some_iff.mp (seating.counts sits)
  exact Container.instance?_lt here

/-- New instances leave the seats as they are. -/
theorem of_isPrefix (seating : Seating seat before attendance)
    (more : before.instances <+: after.instances) : Seating seat after attendance where
  functional := seating.functional
  injective := seating.injective
  counts sits := Container.content?_of_isPrefix more (seating.counts sits)
  channels := seating.channels
  calls := seating.calls
  used := seating.used
  made := seating.made

theorem of_instances_eq (seating : Seating seat before attendance)
    (same : after.instances = before.instances) : Seating seat after attendance :=
  seating.of_isPrefix (same ▸ List.prefix_rfl)

/-- What channels are called makes no difference to the seats. -/
theorem rename (seating : Seating seat before attendance)
    (channels : Keyed String (Nat × String)) :
    Seating seat before { attendance with channels } where
  functional := seating.functional
  injective := seating.injective
  counts := seating.counts
  channels := seating.channels
  calls := seating.calls
  used := seating.used
  made := seating.made

/-- A new channel is given a new instance that has counted nothing, or none at all. -/
theorem arrive (seating : Seating seat before attendance) (guest : Option InstanceId)
    (more : before.instances <+: after.instances)
    (fresh : ∀ {object}, guest = some object → before.instances.length ≤ object.index ∧
      after.content? object = some (.counter 0)) :
    Seating (fun group object => seat group object ∨
        group = .channel attendance.opened ∧ guest = some object)
      after { attendance with opened := attendance.opened + 1 } where
  functional := by
    rintro group object object' (sits | ⟨rfl, new⟩) (sits' | ⟨same, new'⟩)
    · exact seating.functional sits sits'
    · subst same
      exact absurd (seating.channels sits) (Nat.lt_irrefl _)
    · exact absurd (seating.channels sits') (Nat.lt_irrefl _)
    · exact Option.some.inj (new.symm.trans new')
  injective := by
    rintro group group' object (sits | ⟨rfl, new⟩) (sits' | ⟨rfl, new'⟩)
    · exact seating.injective sits sits'
    · exact absurd (seating.index_lt sits) (Nat.not_lt_of_le (fresh new').1)
    · exact absurd (seating.index_lt sits') (Nat.not_lt_of_le (fresh new).1)
    · rfl
  counts := by
    rintro group object (sits | ⟨rfl, new⟩)
    · exact Container.content?_of_isPrefix more (seating.counts sits)
    · have unused : Group.channel attendance.opened ∉ attendance.served :=
        fun mem => absurd (seating.used mem) (Nat.lt_irrefl _)
      rw [List.count_eq_zero_of_not_mem unused]
      exact (fresh new).2
  channels := by
    rintro number object (sits | ⟨same, new⟩)
    · exact Nat.lt_succ_of_lt (seating.channels sits)
    · injection same with same
      exact same ▸ Nat.lt_succ_self _
  calls := by
    rintro number object (sits | ⟨absurd, -⟩)
    · exact seating.calls sits
    · cases absurd
  used mem := Nat.lt_succ_of_lt (seating.used mem)
  made := seating.made

/-- The states of the instances after one of them has counted a call. -/
theorem content?_of_counted {object : InstanceId}
    (counted : after.instances = (before.modifyContent object .increment).instances)
    (other : InstanceId) :
    after.content? other =
      if object = other then (before.content? other).map Content.increment
      else before.content? other := by
  rw [← Container.content?_modifyContent]
  simp only [Container.content?, Container.instance?, counted]

/-- Counting a call of a group that has an instance. -/
theorem serve (seating : Seating seat before attendance) {group : Group} {object : InstanceId}
    (sits : seat group object)
    (counted : after.instances = (before.modifyContent object .increment).instances) :
    Seating seat after { attendance with served := attendance.served ++ [group] } where
  functional := seating.functional
  injective := seating.injective
  counts := by
    intro group' object' sits'
    rw [content?_of_counted counted, seating.counts sits', List.count_append]
    by_cases here : object = object'
    · subst here
      obtain rfl := seating.injective sits sits'
      simp [Content.increment]
    · have apart : group ≠ group' := by
        rintro rfl
        exact here (seating.functional sits sits')
      simp [here, apart]
  channels := seating.channels
  calls := seating.calls
  used := by
    intro number mem
    obtain former | last := List.mem_append.mp mem
    · exact seating.used former
    · obtain rfl := List.mem_singleton.mp last
      exact seating.channels sits
  made := by
    intro number mem
    rw [List.length_append]
    obtain former | last := List.mem_append.mp mem
    · exact Nat.lt_add_right _ (seating.made former)
    · obtain rfl := List.mem_singleton.mp last
      exact absurd sits seating.calls

/-- Counting a call that has an instance of its own. -/
theorem pass (seating : Seating seat before attendance) {object : InstanceId}
    (alone : ∀ {group}, ¬ seat group object)
    (counted : after.instances = (before.modifyContent object .increment).instances) :
    Seating seat after
      { attendance with
        served := attendance.served ++ [.call attendance.served.length] } where
  functional := seating.functional
  injective := seating.injective
  counts := by
    intro group' object' sits'
    have apart : object ≠ object' := by
      rintro rfl
      exact alone sits'
    have other : Group.call attendance.served.length ≠ group' := by
      rintro rfl
      exact seating.calls sits'
    rw [content?_of_counted counted, if_neg apart, seating.counts sits', List.count_append]
    simp [other]
  channels := seating.channels
  calls := seating.calls
  used := by
    intro number mem
    obtain former | last := List.mem_append.mp mem
    · exact seating.used former
    · cases List.mem_singleton.mp last
  made := by
    intro number mem
    rw [List.length_append]
    obtain former | last := List.mem_append.mp mem
    · exact Nat.lt_add_right _ (seating.made former)
    · obtain same := List.mem_singleton.mp last
      injection same with same
      exact same ▸ Nat.lt_succ_self _

/-- A call alone is the first of its group. -/
theorem count_call (seating : Seating seat before attendance) :
    attendance.served.count (.call attendance.served.length) = 0 :=
  List.count_eq_zero_of_not_mem fun mem => absurd (seating.made mem) (Nat.lt_irrefl _)

end Seating

end ServiceDispatch
