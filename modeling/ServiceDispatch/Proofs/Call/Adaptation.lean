import Mathlib.Data.List.Range
import Mathlib.Data.Nat.Find
import ServiceDispatch.Proofs.Call.Dispatch

/-!
# What an invocation adapter does

Every way through an adapter whose plan was made for its signature, for any parameters in any
directions: which slots are read, when the method is called and with which arguments, which error is
answered instead, and what the outcome is made of. What methods do is left open.
-/

namespace ServiceDispatch

variable {σ τ : Type}

/-- A binding of another kind of type. -/
def Binding.map {υ : Type} (change : τ → υ) (binding : Binding τ) : Binding υ :=
  ⟨change binding.type, binding.direction, binding.source⟩

/-- A plan over another kind of type. -/
def AdapterPlan.map {υ : Type} (change : τ → υ) (plan : AdapterPlan τ) : AdapterPlan υ :=
  { plan with bindings := plan.bindings.map (Binding.map change) }

namespace AdapterPlan

/-- How many parameters before a position flow in. -/
def inputsBefore (parameters : List (τ × Direction)) (position : Nat) : Nat :=
  (parameters.take position).countP (·.2.flowsIn)

/-- How many parameters before a position flow out. -/
def outputsBefore (parameters : List (τ × Direction)) (position : Nat) : Nat :=
  (parameters.take position).countP (·.2.flowsOut)

/-- Where the value of a parameter comes from. -/
def sourceAt (parameters : List (τ × Direction)) (slot position : Nat) (direction : Direction) :
    ArgumentSource :=
  if direction.flowsIn then .slot (slot + inputsBefore parameters position) else .initial

end AdapterPlan

open AdapterPlan

namespace Binding

theorem map_ofParameters {υ : Type} (change : τ → υ) (slot : Nat)
    (parameters : List (τ × Direction)) :
    (ofParameters slot parameters).map (map change) =
      ofParameters slot (parameters.map fun parameter => (change parameter.1, parameter.2)) := by
  induction parameters generalizing slot with
  | nil => rfl
  | cons parameter rest ih =>
    obtain ⟨type, direction⟩ := parameter
    cases flows : direction.flowsIn <;> simp [ofParameters, flows, ih, map]

theorem length_ofParameters (slot : Nat) (parameters : List (τ × Direction)) :
    (ofParameters slot parameters).length = parameters.length := by
  induction parameters generalizing slot with
  | nil => rfl
  | cons parameter rest ih =>
    obtain ⟨type, direction⟩ := parameter
    cases flows : direction.flowsIn <;> simp [ofParameters, flows, ih]

theorem map_direction_ofParameters (slot : Nat) (parameters : List (τ × Direction)) :
    (ofParameters slot parameters).map (·.direction) = parameters.map (·.2) := by
  induction parameters generalizing slot with
  | nil => rfl
  | cons parameter rest ih =>
    obtain ⟨type, direction⟩ := parameter
    cases flows : direction.flowsIn <;> simp [ofParameters, flows, ih]

/-- A parameter that flows in takes the slot of its number among these; any other takes none. -/
theorem getElem?_ofParameters (slot position : Nat) (parameters : List (τ × Direction)) :
    (ofParameters slot parameters)[position]? = parameters[position]?.map fun parameter =>
      ⟨parameter.1, parameter.2, sourceAt parameters slot position parameter.2⟩ := by
  induction parameters generalizing slot position with
  | nil => rfl
  | cons parameter rest ih =>
    obtain ⟨type, direction⟩ := parameter
    cases flows : direction.flowsIn with
    | true =>
      cases position with
      | zero => simp [ofParameters, flows, sourceAt, inputsBefore]
      | succ position =>
        simp [ofParameters, flows, ih, sourceAt, inputsBefore, Nat.add_assoc, Nat.add_comm]
    | false =>
      cases position with
      | zero => simp [ofParameters, flows, sourceAt]
      | succ position => simp [ofParameters, flows, ih, sourceAt, inputsBefore]

/-- The slots are taken one after another, each once. -/
theorem filterMap_slot?_ofParameters (slot : Nat) (parameters : List (τ × Direction)) :
    (ofParameters slot parameters).filterMap slot? =
      List.range' slot (parameters.countP (·.2.flowsIn)) := by
  induction parameters generalizing slot with
  | nil => rfl
  | cons parameter rest ih =>
    obtain ⟨type, direction⟩ := parameter
    cases flows : direction.flowsIn with
    | true =>
      rw [ofParameters, if_pos flows, List.filterMap_cons_some (f := slot?) rfl, ih,
        List.countP_cons, if_pos flows, List.range'_succ]
    | false =>
      rw [ofParameters, if_neg (by simp [flows]), List.filterMap_cons_none rfl, ih,
        List.countP_cons_of_neg (by simp [flows])]

end Binding

namespace InputBuffer

/-- Taking from a slot leaves the other ones as they are. -/
theorem held?_take (inputs : InputBuffer) {index position : Nat} (type : ValueType)
    (apart : index ≠ position) : (inputs.take index type).1.held? position =
      inputs.held? position := by
  rw [take]
  cases inputs.held? index with
  | none => rfl
  | some value => simp [held?, List.getElem?_set_ne apart]

/-- What taking from a slot answers. -/
theorem take_snd (inputs : InputBuffer) (position : Nat) (type : ValueType) :
    (inputs.take position type).2 =
      match inputs.held? position with
      | none => .error (.missingInput position)
      | some value =>
        if value.type = type then .ok value
        else .error (.inputTypeMismatch position type.typeName) := by
  rw [take]
  cases inputs.held? position <;> rfl

end InputBuffer

/-- Reads the value of one parameter from a buffer from which nothing was taken. -/
def Binding.read (inputs : InputBuffer) (binding : Binding ValueType) : Except Failure Value :=
  match binding.source with
  | .initial => .ok binding.type.initial
  | .slot index => (inputs.take index binding.type).2

/-- Arguments that want different slots are read one by one, as long as nothing was taken from these
slots; the first that cannot be read decides the failure. -/
theorem AdapterPlan.takeArguments_eq_mapM {bindings : List (Binding ValueType)}
    (distinct : (bindings.filterMap Binding.slot?).Nodup) {inputs given : InputBuffer}
    (untouched : ∀ index ∈ bindings.filterMap Binding.slot?,
      inputs.held? index = given.held? index) :
    takeArguments bindings inputs = bindings.mapM (Binding.read given) := by
  induction bindings generalizing inputs with
  | nil => rfl
  | cons binding rest ih =>
    obtain ⟨type, direction, source⟩ := binding
    rw [List.mapM_cons, takeArguments]
    cases source with
    | initial =>
      rw [List.filterMap_cons_none rfl] at distinct untouched
      simp only [ih distinct untouched, Binding.read]
      cases rest.mapM (Binding.read given) <;> rfl
    | slot index =>
      rw [List.filterMap_cons_some (f := Binding.slot?) rfl] at distinct untouched
      rw [List.nodup_cons] at distinct
      have taken : (inputs.take index type).2 = (given.take index type).2 := by
        rw [InputBuffer.take_snd, InputBuffer.take_snd, untouched index List.mem_cons_self]
      have others : takeArguments rest (inputs.take index type).1 =
          rest.mapM (Binding.read given) := by
        refine ih distinct.2 fun other mem => ?_
        have apart : index ≠ other := fun same => distinct.1 (same ▸ mem)
        rw [InputBuffer.held?_take inputs type apart]
        exact untouched other (List.mem_cons_of_mem _ mem)
      simp only [Binding.read, ← taken]
      match taking : inputs.take index type with
      | (_, .error failure) => rfl
      | (left, .ok value) =>
        rw [taking] at others
        simp only [others]
        cases rest.mapM (Binding.read given) <;> rfl

section

variable {ε α β : Type} {f : α → Except ε β} {list : List α}

/-- A traversal of readable elements gives their values. -/
theorem mapM_eq_ok {values : List β} (length : values.length = list.length)
    (each : ∀ {place : Nat} {a}, list[place]? = some a →
      ∃ b, values[place]? = some b ∧ f a = .ok b) :
    list.mapM f = .ok values := by
  induction list generalizing values with
  | nil => rw [List.mapM_nil, List.length_eq_zero_iff.mp length]; rfl
  | cons a rest ih =>
    cases values with
    | nil => simp at length
    | cons b values =>
      obtain ⟨_, same, first⟩ := @each 0 _ rfl
      obtain rfl := Option.some.inj same
      have others := ih (by simpa using length) fun {place a} here => @each (place + 1) a here
      rw [List.mapM_cons, first, others]
      rfl

/-- A traversal ends at the first element that cannot be read. -/
theorem mapM_eq_error {place : Nat} {a : α} {error : ε} (here : list[place]? = some a)
    (fails : f a = .error error)
    (earlier : ∀ {former : Nat} {a}, former < place → list[former]? = some a → ∃ b, f a = .ok b) :
    list.mapM f = .error error := by
  induction list generalizing place with
  | nil => cases here
  | cons first rest ih =>
    rw [List.mapM_cons]
    cases place with
    | zero =>
      obtain rfl := Option.some.inj here
      rw [fails]
      rfl
    | succ place =>
      obtain ⟨b, read⟩ := @earlier 0 first (Nat.succ_pos place) rfl
      have others := @ih place here fun {former a} lower found =>
        @earlier (former + 1) a (Nat.succ_lt_succ lower) found
      rw [read, others]
      rfl

end

namespace AdapterPlan

section

variable {parameters : List (τ × Direction)}

theorem inputsBefore_mono {earlier later : Nat} (order : earlier ≤ later) :
    inputsBefore parameters earlier ≤ inputsBefore parameters later :=
  (List.take_sublist_take_left order).countP_le

/-- A parameter that flows in has a lower slot than those after it. -/
theorem inputsBefore_lt {earlier later : Nat} (order : earlier < later) {parameter : τ × Direction}
    (here : parameters[earlier]? = some parameter) (flows : parameter.2.flowsIn = true) :
    inputsBefore parameters earlier < inputsBefore parameters later := by
  have next : inputsBefore parameters (earlier + 1) = inputsBefore parameters earlier + 1 := by
    rw [inputsBefore, List.take_add_one, here, Option.toList_some, List.countP_append]
    simp [inputsBefore, flows]
  have following : inputsBefore parameters (earlier + 1) ≤ inputsBefore parameters later :=
    inputsBefore_mono order
  omega

end

variable {parameters : List (ValueType × Direction)} {inputs : InputBuffer}

/-- The slot of a parameter, if it has one, holds a value of the type of the parameter. -/
def Readable (parameters : List (ValueType × Direction)) (inputs : InputBuffer)
    (position : Nat) : Prop :=
  ∀ type direction, parameters[position]? = some (type, direction) → direction.flowsIn = true →
    ∃ value : Value, value.type = type ∧
      inputs.held? (inputsBefore parameters position) = some value

/-- The arguments that a buffer gives to parameters. -/
structure Supplies (parameters : List (ValueType × Direction)) (inputs : InputBuffer)
    (passed : List Value) : Prop where
  /-- There is an argument for each parameter. -/
  length : passed.length = parameters.length
  /-- A parameter that flows in gets the value of its slot, which is of its type. -/
  input : ∀ {position : Nat} {type direction}, parameters[position]? = some (type, direction) →
    direction.flowsIn = true → ∃ value, passed[position]? = some value ∧ value.type = type ∧
      inputs.held? (inputsBefore parameters position) = some value
  /-- Any other parameter starts from the initial value of its type. -/
  initial : ∀ {position : Nat} {type direction}, parameters[position]? = some (type, direction) →
    direction.flowsIn = false → passed[position]? = some type.initial

/-- The lowest slot that is empty or holds a value of a type that its parameter does not have, and
the failure that says so. -/
inductive Lacks (parameters : List (ValueType × Direction)) (inputs : InputBuffer) :
    (slot : Nat) → Failure → Prop where
  /-- The slot is empty. -/
  | missing {position : Nat} {type : ValueType} {direction : Direction}
      (here : parameters[position]? = some (type, direction)) (flows : direction.flowsIn = true)
      (empty : inputs.held? (inputsBefore parameters position) = none)
      (lower : ∀ {other}, inputsBefore parameters other < inputsBefore parameters position →
        Readable parameters inputs other) :
      Lacks parameters inputs (inputsBefore parameters position)
        (.missingInput (inputsBefore parameters position))
  /-- The slot holds something else. -/
  | mistyped {position : Nat} {type : ValueType} {direction : Direction} {value : Value}
      (here : parameters[position]? = some (type, direction)) (flows : direction.flowsIn = true)
      (held : inputs.held? (inputsBefore parameters position) = some value)
      (other : value.type ≠ type)
      (lower : ∀ {other}, inputsBefore parameters other < inputsBefore parameters position →
        Readable parameters inputs other) :
      Lacks parameters inputs (inputsBefore parameters position)
        (.inputTypeMismatch (inputsBefore parameters position) type.typeName)

/-- A binding of parameters takes the slot of its parameter. -/
theorem read_ofParameters {position : Nat} {type : ValueType} {direction : Direction}
    (here : parameters[position]? = some (type, direction)) :
    (Binding.ofParameters 0 parameters)[position]? =
      some ⟨type, direction, sourceAt parameters 0 position direction⟩ := by
  rw [Binding.getElem?_ofParameters, here]
  rfl

/-- What a parameter is read as. -/
theorem read_sourceAt (inputs : InputBuffer) (position : Nat) (type : ValueType)
    (direction : Direction) :
    Binding.read inputs ⟨type, direction, sourceAt parameters 0 position direction⟩ =
      if direction.flowsIn then (inputs.take (inputsBefore parameters position) type).2
      else .ok type.initial := by
  cases flows : direction.flowsIn <;> simp [Binding.read, sourceAt, flows]

theorem takeArguments_ofParameters (parameters : List (ValueType × Direction))
    (inputs : InputBuffer) :
    takeArguments (Binding.ofParameters 0 parameters) inputs =
      (Binding.ofParameters 0 parameters).mapM (Binding.read inputs) := by
  refine takeArguments_eq_mapM ?_ fun _ _ => rfl
  rw [Binding.filterMap_slot?_ofParameters]
  exact List.nodup_range'

/-- Arguments are taken as a buffer supplies them. -/
theorem Supplies.takeArguments {passed : List Value}
    (supplies : Supplies parameters inputs passed) :
    takeArguments (Binding.ofParameters 0 parameters) inputs = .ok passed := by
  rw [takeArguments_ofParameters]
  refine mapM_eq_ok ?_ fun {position binding} here => ?_
  · rw [supplies.length, Binding.length_ofParameters]
  · rw [Binding.getElem?_ofParameters] at here
    obtain ⟨⟨type, direction⟩, found, rfl⟩ := Option.map_eq_some_iff.mp here
    rw [read_sourceAt]
    cases flows : direction.flowsIn with
    | true =>
      obtain ⟨value, given, typed, held⟩ := supplies.input found flows
      refine ⟨value, given, ?_⟩
      rw [if_pos rfl, InputBuffer.take_snd, held]
      exact if_pos typed
    | false => exact ⟨_, supplies.initial found flows, rfl⟩

/-- The lowest slot that cannot be read decides the failure. -/
theorem Lacks.takeArguments {slot : Nat} {failure : Failure}
    (lacks : Lacks parameters inputs slot failure) :
    takeArguments (Binding.ofParameters 0 parameters) inputs = .error failure := by
  have first : ∀ {position type direction}, parameters[position]? = some (type, direction) →
      direction.flowsIn = true →
      (inputs.take (inputsBefore parameters position) type).2 = .error failure →
      (∀ {other}, inputsBefore parameters other < inputsBefore parameters position →
        Readable parameters inputs other) →
      AdapterPlan.takeArguments (Binding.ofParameters 0 parameters) inputs = .error failure := by
    intro position type direction here flows fails lower
    rw [takeArguments_ofParameters]
    refine mapM_eq_error (read_ofParameters here) ?_ fun {former binding} order found => ?_
    · rw [read_sourceAt, if_pos flows, fails]
    · rw [Binding.getElem?_ofParameters] at found
      obtain ⟨⟨type', direction'⟩, there, rfl⟩ := Option.map_eq_some_iff.mp found
      rw [read_sourceAt]
      cases flows' : direction'.flowsIn with
      | true =>
        obtain ⟨value, typed, held⟩ := lower (inputsBefore_lt order there flows') _ _ there flows'
        refine ⟨value, ?_⟩
        rw [if_pos rfl, InputBuffer.take_snd, held]
        exact if_pos typed
      | false => exact ⟨_, rfl⟩
  cases lacks with
  | missing here flows empty lower =>
    refine first here flows ?_ lower
    rw [InputBuffer.take_snd, empty]
  | mistyped here flows held other lower =>
    refine first here flows ?_ lower
    rw [InputBuffer.take_snd, held]
    exact if_neg other

/-- A buffer supplies all arguments, or there is a lowest slot that cannot be read. -/
theorem supplies_or_lacks (parameters : List (ValueType × Direction)) (inputs : InputBuffer) :
    (∃ passed, Supplies parameters inputs passed) ∨
      ∃ slot failure, Lacks parameters inputs slot failure := by
  by_cases all : ∀ position, Readable parameters inputs position
  · left
    refine ⟨parameters.mapIdx fun position parameter =>
      if parameter.2.flowsIn then (inputs.held? (inputsBefore parameters position)).getD .unit
      else parameter.1.initial, by simp, ?_, ?_⟩
    · intro position type direction here flows
      obtain ⟨value, typed, held⟩ := all position _ _ here flows
      exact ⟨value, by simp [here, flows, held], typed, held⟩
    · intro position type direction here flows
      simp [here, flows]
  · right
    have bad := Classical.not_forall.mp all
    classical
    have first := Nat.find_spec bad
    have earlier : ∀ other < Nat.find bad, Readable parameters inputs other :=
      fun other order => Classical.not_not.mp (Nat.find_min bad order)
    generalize Nat.find bad = position at first earlier
    have lower : ∀ {other}, inputsBefore parameters other < inputsBefore parameters position →
        Readable parameters inputs other := fun below =>
      earlier _ (Nat.lt_of_not_le fun order => Nat.not_le_of_lt below (inputsBefore_mono order))
    rw [Readable] at first
    push Not at first
    obtain ⟨type, direction, here, flows, unreadable⟩ := first
    cases held : inputs.held? (inputsBefore parameters position) with
    | none => exact ⟨_, _, .missing here flows held lower⟩
    | some value =>
      exact ⟨_, _, .mistyped here flows held (fun typed => unreadable value typed held) lower⟩

/-- Picking from a list in order, with the places of what is picked. -/
theorem flatten_mapIdx_pick {α β : Type} (list : List α) (picks : α → Bool)
    (value : Nat → α → β) :
    (list.mapIdx fun place a => if picks a then [value place a] else []).flatten.length =
        list.countP picks ∧
      ∀ {place a}, list[place]? = some a → picks a = true →
        (list.mapIdx fun place a => if picks a then [value place a] else []).flatten[
          (list.take place).countP picks]? = some (value place a) := by
  induction list generalizing value with
  | nil => exact ⟨rfl, fun here => nomatch here⟩
  | cons first rest ih =>
    obtain ⟨length, others⟩ := ih fun place => value (place + 1)
    cases picked : picks first with
    | true =>
      refine ⟨by simpa [picked] using length, fun {place a} here chosen => ?_⟩
      cases place with
      | zero =>
        obtain rfl := Option.some.inj here
        simp [picked]
      | succ place => simpa [picked] using others here chosen
    | false =>
      refine ⟨by simpa [picked] using length, fun {place a} here chosen => ?_⟩
      cases place with
      | zero =>
        obtain rfl := Option.some.inj here
        rw [picked] at chosen
        cases chosen
      | succ place => simpa [picked] using others here chosen

/-- As many parameters flow out as directions do. -/
theorem countP_flowsOut {bound : List (Binding ValueType × Value)}
    {parameters : List (ValueType × Direction)}
    (directions : bound.map (·.1.direction) = parameters.map (·.2)) :
    bound.countP (·.1.direction.flowsOut) = parameters.countP (·.2.flowsOut) := by
  have counts := congrArg (List.countP Direction.flowsOut) directions
  rwa [List.countP_map, List.countP_map] at counts

/-- The outputs are the values after the call of the parameters that flow out, in order. -/
theorem outputValues_ofParameters {passed : List Value} (length : passed.length = parameters.length)
    (reply : Reply) :
    (outputValues (Binding.ofParameters 0 parameters) passed reply).length =
        parameters.countP (·.2.flowsOut) ∧
      ∀ {position type direction value}, parameters[position]? = some (type, direction) →
        direction.flowsOut = true → passed[position]? = some value →
        (outputValues (Binding.ofParameters 0 parameters) passed reply)[
          outputsBefore parameters position]? = some (reply.after position value) := by
  let bound := (Binding.ofParameters 0 parameters).zip passed
  obtain ⟨count, places⟩ := flatten_mapIdx_pick bound (·.1.direction.flowsOut)
    fun position parameter => reply.after position parameter.2
  have same : bound.map Prod.fst = Binding.ofParameters 0 parameters := by
    rw [List.map_fst_zip]
    rw [length, Binding.length_ofParameters]
  have directions : bound.map (·.1.direction) = parameters.map (·.2) := by
    have directed := Binding.map_direction_ofParameters 0 parameters
    rw [← same, List.map_map] at directed
    exact directed
  refine ⟨count.trans (countP_flowsOut directions), ?_⟩
  intro position type direction value here flows given
  have before : (bound.take position).countP (·.1.direction.flowsOut) =
      outputsBefore parameters position :=
    countP_flowsOut (by rw [List.map_take, directions, ← List.map_take])
  have found : bound[position]? =
      some (⟨type, direction, sourceAt parameters 0 position direction⟩, value) :=
    List.getElem?_zip_eq_some.mpr ⟨read_ofParameters here, given⟩
  rw [← before]
  exact places found flows

end AdapterPlan

/-- The plan of an adapter was made for its signature, from parameters of given types. -/
structure Adapter.IsPlanned (adapter : Adapter σ) (parameters : List (ValueType × Direction)) :
    Prop where
  /-- The signature has the same directions. -/
  directions : adapter.signature.parameters.map (·.direction) = parameters.map (·.2)
  /-- The number of slots is read off the signature. -/
  slots : adapter.plan.slots = adapter.signature.inputCount
  /-- The bindings are made from the parameters. -/
  bindings : adapter.plan.bindings = Binding.ofParameters 0 parameters
  /-- The call is awaited as the shape says. -/
  awaits : adapter.plan.awaits = adapter.signature.shape.isAsync
  /-- The outcome has a return value as the shape says. -/
  returnsValue : adapter.plan.returnsValue = adapter.signature.shape.hasValue

/-- What an adapter does with a call, by the ways it may end. Every equation says what is run and
what the state is afterwards, so nothing else happens on that way, and a method that is run is run
once. -/
structure Adapter.Moves (adapter : Adapter σ) (parameters : List (ValueType × Direction)) :
    Prop where
  /-- There is an empty slot for each parameter that flows in. -/
  slots : adapter.allocateInputs = .withLength adapter.signature.inputCount
  /-- A parameter that flows in is taken from the slot of its number among these; any other starts
  from the initial value of its type. -/
  sources : ∀ {position : Nat} {type direction}, parameters[position]? = some (type, direction) →
    adapter.plan.bindings[position]? = some ⟨type, direction,
      if direction.flowsIn then .slot (inputsBefore parameters position) else .initial⟩
  /-- Each slot is read by one parameter, and no parameter reads anything else. -/
  once : adapter.plan.bindings.filterMap Binding.slot? = List.range adapter.signature.inputCount
  /-- An instance that is not of the contract is not called. -/
  mismatched : ∀ {served : ServiceInstance} {inputs services state},
    served.typeName ≠ adapter.contract →
    (adapter.invoke served inputs).run services state =
      (.error (.instanceTypeMismatch adapter.contract), state)
  /-- The lowest slot that cannot be read decides the failure, and the method is not called. -/
  refused : ∀ {served : ServiceInstance} {inputs slot failure services state},
    served.typeName = adapter.contract → Lacks parameters inputs slot failure →
    (adapter.invoke served inputs).run services state = (.error failure, state)
  /-- Otherwise the method is called with all parameters in declared order, and its answer is
  the answer. -/
  served : ∀ {served : ServiceInstance} {inputs passed services state},
    served.typeName = adapter.contract → Supplies parameters inputs passed →
    (adapter.invoke served inputs).run services state =
      (adapter.answer passed ((adapter.method served.object passed).run services state).1,
        ((adapter.method served.object passed).run services state).2)
  /-- There is no other way. -/
  decided : ∀ inputs, (∃ passed, Supplies parameters inputs passed) ∨
    ∃ slot failure, Lacks parameters inputs slot failure
  /-- The outcome has a return value if and only if the shape has one. -/
  returned : ∀ {passed reply}, (adapter.plan.outcome passed reply).returned =
    if adapter.signature.shape.hasValue then some reply.returned else none
  /-- The outcome has an output for each parameter that flows out, -/
  outputCount : ∀ {passed reply}, passed.length = parameters.length →
    (adapter.plan.outcome passed reply).outputs.length = adapter.signature.outputCount
  /-- which is its value after the call, in declared order. -/
  outputs : ∀ {passed reply position type direction value},
    passed.length = parameters.length → parameters[position]? = some (type, direction) →
    direction.flowsOut = true → passed[position]? = some value →
    (adapter.plan.outcome passed reply).outputs[outputsBefore parameters position]? =
      some (reply.after position value)
  /-- The call is awaited if and only if the shape is asynchronous. -/
  awaited : adapter.plan.awaits = adapter.signature.shape.isAsync

namespace Adapter.IsPlanned

variable {adapter : Adapter σ} {parameters : List (ValueType × Direction)}

theorem inputCount_eq (planned : adapter.IsPlanned parameters) :
    adapter.signature.inputCount = parameters.countP (·.2.flowsIn) := by
  have counts := congrArg (List.countP Direction.flowsIn) planned.directions
  rwa [List.countP_map, List.countP_map, List.countP_eq_length_filter] at counts

theorem outputCount_eq (planned : adapter.IsPlanned parameters) :
    adapter.signature.outputCount = parameters.countP (·.2.flowsOut) := by
  have counts := congrArg (List.countP Direction.flowsOut) planned.directions
  rwa [List.countP_map, List.countP_map, List.countP_eq_length_filter] at counts

/-- An adapter that was planned for its signature moves every parameter once, in its direction. -/
theorem moves (planned : adapter.IsPlanned parameters) : adapter.Moves parameters where
  slots := congrArg InputBuffer.withLength planned.slots
  sources here := by
    rw [planned.bindings, read_ofParameters here, sourceAt, Nat.zero_add]
  once := by
    rw [planned.bindings, Binding.filterMap_slot?_ofParameters, planned.inputCount_eq,
      List.range_eq_range']
  mismatched other := run_invoke_mismatched other
  refused typed lacks := by
    rw [run_invoke typed, planned.bindings, lacks.takeArguments]
  served typed supplies := by
    rw [run_invoke typed, planned.bindings, supplies.takeArguments]
  decided := supplies_or_lacks parameters
  returned := by
    intro passed reply
    rw [outcome, planned.returnsValue]
  outputCount length := by
    rw [outcome, planned.bindings, planned.outputCount_eq]
    exact (outputValues_ofParameters length _).1
  outputs length here flows given := by
    rw [outcome, planned.bindings]
    exact (outputValues_ofParameters length _).2 here flows given
  awaited := planned.awaits

end Adapter.IsPlanned

end ServiceDispatch
