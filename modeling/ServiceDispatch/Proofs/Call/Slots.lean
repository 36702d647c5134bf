import Mathlib.Data.List.Induction
import ServiceDispatch.Proofs.Call.Adaptation

/-!
# Slots over a run

A slot holds what was last written into it, as long as nothing was taken from it since, at whatever
type. The steps below say of each command what it does to one slot; a run over any commands follows.
Commands come one after another, so several threads at once are not covered.
-/

namespace ServiceDispatch.InputBuffer

/-- A command writes a value into a slot, provided that there is such a slot. -/
inductive Command.Writes (place : Nat) (value : Value) : Command → Prop where
  /-- The slot is set. -/
  | set : Writes place value (.set place value)
  /-- The slot is filled with the value at its place. -/
  | fill {values : List Value} (listed : values[place]? = some value) :
      Writes place value (.fill values)

/-- A command takes from a slot. -/
inductive Command.Takes (place : Nat) : Command → Prop where
  /-- At any type. -/
  | take (type : ValueType) : Takes place (.take place type)

/-- A command has nothing to do with a slot. -/
structure Command.LeavesAlone (place : Nat) (command : Command) : Prop where
  /-- It writes nothing into it. -/
  unwritten : ∀ value, ¬ command.Writes place value
  /-- It takes nothing from it. -/
  untaken : ¬ command.Takes place

/-- The last write into a slot wrote a value, and nothing was taken from the slot after it. -/
def LastWrite (commands : List Command) (place : Nat) (value : Value) : Prop :=
  ∃ earlier command later, commands = earlier ++ command :: later ∧ command.Writes place value ∧
    ∀ other ∈ later, other.LeavesAlone place

/-- The buffer after some commands, whatever each of them answers. -/
def after (buffer : InputBuffer) (commands : List Command) : InputBuffer :=
  commands.foldl (fun buffer command => (buffer.execute command).2) buffer

/-- The failure of a write beyond the last slot. -/
def outOfRange (place count : Nat) : Failure :=
  .internal ("input slot " ++ toString place ++ " out of range for buffer of " ++ toString count)

/-- A buffer after a run, and what it answers next. -/
structure IsSlotArray (count : Nat) (commands : List Command) (buffer : InputBuffer) : Prop where
  /-- The number of slots never changes. -/
  length : buffer.length = count
  /-- A slot holds what was last written into it, unless it was taken from since. -/
  held : ∀ place < count, ∀ value,
    buffer.held? place = some value ↔ LastWrite commands place value
  /-- There is nothing to be held beyond the last slot. -/
  outside : ∀ place, count ≤ place → buffer.held? place = none
  /-- Every slot can be set, -/
  set : ∀ place < count, ∀ value, (buffer.execute (.set place value)).1 = .ok .done ∧
    (buffer.execute (.set place value)).2.held? place = some value
  /-- and nothing else can; trying it changes nothing. -/
  setOutside : ∀ place, count ≤ place → ∀ value,
    buffer.execute (.set place value) = (.error (outOfRange place count), buffer)
  /-- Filling fails exactly if there are more values than slots, -/
  fill : ∀ values, (buffer.execute (.fill values)).1 =
    if values.length ≤ count then .ok .done else .error (outOfRange count count)
  /-- and writes the values for which there are slots in either case. -/
  filled : ∀ values, ∀ place < count, (buffer.execute (.fill values)).2.held? place =
    if place < values.length then values[place]? else buffer.held? place
  /-- A value is taken at its own type, -/
  take : ∀ place value, buffer.held? place = some value →
    (buffer.execute (.take place value.type)).1 = .ok (.value value)
  /-- and refused at any other one. -/
  mistyped : ∀ place value type, buffer.held? place = some value → value.type ≠ type →
    (buffer.execute (.take place type)).1 = .error (.inputTypeMismatch place type.typeName)
  /-- In both cases the slot is empty afterwards. -/
  emptied : ∀ place type, (buffer.execute (.take place type)).2.held? place = none
  /-- Nothing can be taken from an empty slot, or from none. -/
  missing : ∀ place type, buffer.held? place = none →
    buffer.execute (.take place type) = (.error (.missingInput place), buffer)
  /-- A slot that a command has nothing to do with holds what it held. -/
  others : ∀ command place, command.LeavesAlone place →
    (buffer.execute command).2.held? place = buffer.held? place

variable {buffer : InputBuffer} {place : Nat} {value : Value} {command : Command}

/-- The buffer with another content of a slot. -/
def put (buffer : InputBuffer) (place : Nat) (content : Option Value) : InputBuffer :=
  ⟨buffer.slots.set place content⟩

@[simp] theorem length_put (buffer : InputBuffer) (place : Nat) (content : Option Value) :
    (buffer.put place content).length = buffer.length := List.length_set

theorem held?_put_self (inside : place < buffer.length) (content : Option Value) :
    (buffer.put place content).held? place = content := by
  have there : (buffer.slots.set place content)[place]? = some content :=
    List.getElem?_set_self inside
  rw [held?, put, there, Option.join_some]

theorem held?_put_of_ne {other : Nat} (apart : place ≠ other) (content : Option Value) :
    (buffer.put place content).held? other = buffer.held? other := by
  rw [held?, put, List.getElem?_set_ne apart, held?]

theorem held?_of_length_le (beyond : buffer.length ≤ place) : buffer.held? place = none := by
  rw [held?, List.getElem?_eq_none beyond, Option.join_none]

theorem set_of_lt (inside : place < buffer.length) (value : Value) :
    buffer.set place value = .ok (buffer.put place (some value)) := if_pos inside

theorem set_of_le (beyond : buffer.length ≤ place) (value : Value) :
    buffer.set place value = .error (outOfRange place buffer.length) := if_neg (by omega)

/-- The number of slots does not change where filling stops, -/
theorem length_fillFrom (values : List Value) :
    (buffer.fillFrom place values).1.length = buffer.length := by
  induction values generalizing buffer place with
  | nil => rw [fillFrom]
  | cons value rest ih =>
    rw [fillFrom]
    by_cases inside : place < buffer.length
    · rw [set_of_lt inside]
      dsimp only
      rw [ih, length_put]
    · rw [set_of_le (by omega)]

/-- and it stops at the first value without a slot. -/
theorem fillFrom_snd (start : place ≤ buffer.length) (values : List Value) :
    (buffer.fillFrom place values).2 =
      if place + values.length ≤ buffer.length then .ok ()
      else .error (outOfRange buffer.length buffer.length) := by
  induction values generalizing buffer place with
  | nil => rw [fillFrom, List.length_nil, Nat.add_zero, if_pos start]
  | cons value rest ih =>
    rw [fillFrom, List.length_cons]
    by_cases inside : place < buffer.length
    · have next := @ih (buffer.put place (some value)) (place + 1) (by rw [length_put]; omega)
      have count : place + 1 + rest.length = place + (rest.length + 1) := by omega
      rw [set_of_lt inside]
      dsimp only
      rw [next, length_put, count]
    · have last : place = buffer.length := by omega
      rw [set_of_le (by omega), if_neg (by omega), last]

/-- Filling writes the values in order, as far as there are slots, and leaves the slots before the
first and after the last of them alone. -/
theorem held?_fillFrom {other : Nat} (inside : other < buffer.length) (values : List Value) :
    (buffer.fillFrom place values).1.held? other =
      if place ≤ other ∧ other < place + values.length then values[other - place]?
      else buffer.held? other := by
  induction values generalizing buffer place with
  | nil =>
    rw [fillFrom, List.length_nil, if_neg (by omega)]
  | cons value rest ih =>
    rw [fillFrom, List.length_cons]
    by_cases room : place < buffer.length
    · have next := @ih (buffer.put place (some value)) (place + 1) (by rwa [length_put])
      rw [set_of_lt room]
      dsimp only
      rw [next]
      by_cases here : place = other
      · rw [if_neg (by omega), if_pos (by omega), ← here, held?_put_self room, Nat.sub_self,
          List.getElem?_cons_zero]
      · rw [held?_put_of_ne here]
        by_cases later : place + 1 ≤ other ∧ other < place + 1 + rest.length
        · have shifted : other - place = other - (place + 1) + 1 := by omega
          rw [if_pos later, if_pos (by omega), shifted, List.getElem?_cons_succ]
        · rw [if_neg later, if_neg (by omega)]
    · rw [set_of_le (by omega), if_neg (by omega)]

theorem execute_set_of_lt (inside : place < buffer.length) (value : Value) :
    buffer.execute (.set place value) = (.ok .done, buffer.put place (some value)) := by
  rw [execute, set_of_lt inside]

theorem execute_set_of_le (beyond : buffer.length ≤ place) (value : Value) :
    buffer.execute (.set place value) = (.error (outOfRange place buffer.length), buffer) := by
  rw [execute, set_of_le beyond]

/-- What filling answers. -/
theorem execute_fill_fst (buffer : InputBuffer) (values : List Value) :
    (buffer.execute (.fill values)).1 =
      if values.length ≤ buffer.length then .ok .done
      else .error (outOfRange buffer.length buffer.length) := by
  have stops := fillFrom_snd (Nat.zero_le buffer.length) values
  rw [Nat.zero_add] at stops
  rw [execute, fill]
  dsimp only
  rw [stops]
  split <;> rfl

theorem held?_execute_fill (inside : place < buffer.length) (values : List Value) :
    (buffer.execute (.fill values)).2.held? place =
      if place < values.length then values[place]? else buffer.held? place := by
  have filled := @held?_fillFrom buffer 0 place inside values
  simp only [Nat.zero_add, Nat.sub_zero, Nat.zero_le, true_and] at filled
  exact filled

theorem execute_take_of_held {type : ValueType} (held : buffer.held? place = some value) :
    buffer.execute (.take place type) =
      (if value.type = type then .ok (.value value)
        else .error (.inputTypeMismatch place type.typeName), buffer.put place none) := by
  rw [execute, take, held]
  dsimp only
  split <;> rfl

theorem execute_take_of_missing {type : ValueType} (missing : buffer.held? place = none) :
    buffer.execute (.take place type) = (.error (.missingInput place), buffer) := by
  rw [execute, take, missing]
  rfl

theorem held?_execute_take (type : ValueType) :
    (buffer.execute (.take place type)).2.held? place = none := by
  cases held : buffer.held? place with
  | none => rw [execute_take_of_missing held, held]
  | some value =>
    have inside : place < buffer.length := by
      by_contra beyond
      rw [held?_of_length_le (by omega)] at held
      cases held
    rw [execute_take_of_held held, held?_put_self inside]

/-- No command changes the number of slots. -/
theorem length_execute (buffer : InputBuffer) (command : Command) :
    (buffer.execute command).2.length = buffer.length := by
  cases command with
  | set place value =>
    by_cases inside : place < buffer.length
    · rw [execute_set_of_lt inside, length_put]
    · rw [execute_set_of_le (by omega)]
  | fill values => exact length_fillFrom values
  | take place type =>
    cases held : buffer.held? place with
    | none => rw [execute_take_of_missing held]
    | some value => rw [execute_take_of_held held, length_put]
  | isSet place => rfl

/-- A command that writes into a slot leaves the value there. -/
theorem held?_execute_of_writes (inside : place < buffer.length)
    (writes : command.Writes place value) :
    (buffer.execute command).2.held? place = some value := by
  cases writes with
  | set => rw [execute_set_of_lt inside, held?_put_self inside]
  | fill listed =>
    have short := (List.getElem?_eq_some_iff.mp listed).1
    rw [held?_execute_fill inside, if_pos short, listed]

/-- A command that has nothing to do with a slot changes nothing there. -/
theorem held?_execute_of_leavesAlone (alone : command.LeavesAlone place) :
    (buffer.execute command).2.held? place = buffer.held? place := by
  by_cases inside : place < buffer.length
  · cases command with
    | set other value =>
      have apart : other ≠ place := by
        rintro rfl
        exact alone.unwritten value .set
      by_cases room : other < buffer.length
      · rw [execute_set_of_lt room, held?_put_of_ne apart]
      · rw [execute_set_of_le (by omega)]
    | fill values =>
      have short : values.length ≤ place := by
        by_contra long
        exact alone.unwritten _ (.fill (List.getElem?_eq_getElem (Nat.lt_of_not_le long)))
      rw [held?_execute_fill inside, if_neg (by omega)]
    | take other type =>
      have apart : other ≠ place := by
        rintro rfl
        exact alone.untaken (.take type)
      exact held?_take buffer type apart
    | isSet other => rfl
  · have beyond : (buffer.execute command).2.length ≤ place := by
      rw [length_execute]
      omega
    rw [held?_of_length_le beyond, held?_of_length_le (by omega)]

theorem Command.Writes.unique {other : Value} (first : command.Writes place value)
    (second : command.Writes place other) : value = other := by
  cases first with
  | set =>
    cases second
    rfl
  | fill listed =>
    cases second with
    | fill again => exact Option.some.inj (listed.symm.trans again)

theorem Command.Writes.not_takes (writes : command.Writes place value) :
    ¬ command.Takes place := by
  cases writes <;> exact nofun

/-- A command writes into a slot, or takes from it, or has nothing to do with it. -/
theorem Command.cases_at (command : Command) (place : Nat) :
    (∃ value, command.Writes place value) ∨ command.Takes place ∨ command.LeavesAlone place := by
  by_cases writes : ∃ value, command.Writes place value
  · exact .inl writes
  by_cases takes : command.Takes place
  · exact .inr (.inl takes)
  · exact .inr (.inr ⟨not_exists.mp writes, takes⟩)

/-- Whether a write is the last one is told by the last command and those before it. -/
theorem lastWrite_concat_iff {commands : List Command} :
    LastWrite (commands ++ [command]) place value ↔
      command.Writes place value ∨ command.LeavesAlone place ∧ LastWrite commands place value := by
  constructor
  · rintro ⟨earlier, write, later, listed, writes, alone⟩
    rcases List.eq_nil_or_concat later with rfl | ⟨former, final, rfl⟩
    · obtain ⟨-, same⟩ := List.append_inj' listed rfl
      obtain rfl := List.singleton_inj.mp same
      exact .inl writes
    · rw [List.concat_eq_append, ← List.cons_append, ← List.append_assoc] at listed
      obtain ⟨front, same⟩ := List.append_inj' listed rfl
      obtain rfl := List.singleton_inj.mp same
      rw [List.concat_eq_append] at alone
      have last := alone command (by simp)
      have others : ∀ other ∈ former, other.LeavesAlone place := fun other mem =>
        alone other (List.mem_append_left _ mem)
      exact .inr ⟨last, earlier, write, former, front, writes, others⟩
  · rintro (writes | ⟨alone, earlier, write, later, rfl, writes, others⟩)
    · exact ⟨commands, command, [], rfl, writes, nofun⟩
    · refine ⟨earlier, write, later ++ [command], by simp, writes, fun other mem => ?_⟩
      rcases List.mem_append.mp mem with listed | last
      · exact others other listed
      · obtain rfl := List.mem_singleton.mp last
        exact alone

theorem after_concat (buffer : InputBuffer) (commands : List Command) (command : Command) :
    buffer.after (commands ++ [command]) = ((buffer.after commands).execute command).2 := by
  rw [after, List.foldl_append]
  rfl

theorem length_after (buffer : InputBuffer) (commands : List Command) :
    (buffer.after commands).length = buffer.length := by
  induction commands using List.reverseRecOn with
  | nil => rfl
  | append_singleton commands command ih => rw [after_concat, length_execute, ih]

/-- What a slot holds after a run on a buffer of empty slots. -/
theorem held?_after_iff {count : Nat} {commands : List Command} (inside : place < count) :
    ((withLength count).after commands).held? place = some value ↔
      LastWrite commands place value := by
  induction commands using List.reverseRecOn generalizing value with
  | nil =>
    have empty : (withLength count).held? place = none := by
      rw [held?, withLength, List.getElem?_replicate_of_lt inside, Option.join_some]
    have unwritten : ¬ LastWrite [] place value := by
      rintro ⟨earlier, write, later, listed, -⟩
      simp at listed
    exact iff_of_false (by simp [after, empty]) unwritten
  | append_singleton commands command ih =>
    have room : place < ((withLength count).after commands).length := by
      rw [length_after, length, withLength, List.length_replicate]
      exact inside
    rw [after_concat, lastWrite_concat_iff]
    rcases command.cases_at place with ⟨written, writes⟩ | takes | alone
    · rw [held?_execute_of_writes room writes]
      constructor
      · intro same
        obtain rfl := Option.some.inj same
        exact .inl writes
      · rintro (again | ⟨alone, -⟩)
        · rw [writes.unique again]
        · exact absurd writes (alone.unwritten written)
    · obtain ⟨type⟩ := takes
      rw [held?_execute_take]
      refine iff_of_false (by simp) ?_
      rintro (writes | ⟨alone, -⟩)
      · exact writes.not_takes (.take type)
      · exact alone.untaken (.take type)
    · rw [held?_execute_of_leavesAlone alone, ih]
      have unwritten := alone.unwritten value
      tauto

/-- A buffer of empty slots is an array of slots that each give a value away once, over every run.
-/
theorem isSlotArray_after (count : Nat) (commands : List Command) :
    IsSlotArray count commands ((withLength count).after commands) := by
  have length : ((withLength count).after commands).length = count := by
    rw [length_after, InputBuffer.length, withLength, List.length_replicate]
  have held : ∀ place < count, ∀ value,
      ((withLength count).after commands).held? place = some value ↔
        LastWrite commands place value := fun place inside value => held?_after_iff inside
  generalize (withLength count).after commands = buffer at length held
  subst length
  exact
    { length := rfl
      held
      outside := fun place beyond => held?_of_length_le beyond
      set := fun place inside value => by
        rw [execute_set_of_lt inside]
        exact ⟨rfl, held?_put_self inside _⟩
      setOutside := fun place beyond value => execute_set_of_le beyond value
      fill := execute_fill_fst buffer
      filled := fun values place inside => held?_execute_fill inside values
      take := fun place value found => by rw [execute_take_of_held found, if_pos rfl]
      mistyped := fun place value type found differs => by
        rw [execute_take_of_held found, if_neg differs]
      emptied := fun place type => held?_execute_take type
      missing := fun place type empty => execute_take_of_missing empty
      others := fun command place alone => held?_execute_of_leavesAlone alone }

/-- Filling too much keeps what it wrote, and a value that is refused is gone. -/
example : ((withLength 1).after [.fill [.u8 1, .u8 2], .take 0 .bool]).execute (.take 0 .u8) =
    (.error (.missingInput 0), ⟨[none]⟩) := by
  rfl

end ServiceDispatch.InputBuffer
