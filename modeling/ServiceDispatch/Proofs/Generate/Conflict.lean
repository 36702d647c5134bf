import Mathlib.Data.List.Basic
import ServiceDispatch.Generate.Delegation

/-!
# Conflicting injections

No parameter is bound to a message property and to a service key at once. Where its marker names
both, in whatever order and among whatever other arguments, the analysis has one problem for the
parameter, which no other check replaces or doubles, and the method is not delegated. Of several
markers of one parameter only the first is read; what the others name is not covered.
-/

namespace ServiceDispatch.Generate

open Source

/-- Some arguments name a message property and a service key; the last key counts. -/
structure NamesBoth (found : List InjectArgument) (key : StringArgument) : Prop where
  /-- A property is named. -/
  property : ∃ text, .property text ∈ found
  /-- The key is named, and no other after it. -/
  key : ∃ earlier later, found = earlier ++ .key key :: later ∧ ∀ text, .key text ∉ later

/-- The first marker of a parameter can be read and names both. -/
def HasConflict (input : TypedInput) (key : StringArgument) : Prop :=
  ∃ earlier attr later found, input.attributes = earlier ++ attr :: later ∧
    (∀ former ∈ earlier, former.isMarker injectMarker = false) ∧
    attr.isMarker injectMarker = true ∧ injectArguments attr = .ok found ∧ NamesBoth found key

/-- The problem of a conflicting parameter, which stands at the key. -/
def conflictFault (name : Name) (key : StringArgument) : Diagnostic :=
  ⟨.conflictingBinding,
    "parameter `" ++ name.text ++ "` specifies both a message property and a service key",
    key.span⟩

/-- What is said of a conflicting parameter. One that is no plain identifier is refused for that,
before its markers are read. -/
def conflictRefusal (pattern : Pattern) (key : StringArgument) : Diagnostic :=
  match plainName pattern with
  | .ok name => conflictFault name key
  | .error fault => fault

/-- The key in conflict with a property, if a marker names both. -/
def conflictKey? (attr : Attribute) : Option StringArgument :=
  match injectArguments attr with
  | .error _ => none
  | .ok found => if (propertyOf? found).isSome then keyOf? found else none

/-- The problem of a plain parameter whose first marker names both. -/
def conflictFault? (input : TypedInput) : Option Diagnostic :=
  match plainName input.pattern with
  | .error _ => none
  | .ok name =>
    match input.attributes.find? (Attribute.isMarker injectMarker) with
    | none => none
    | some attr => (conflictKey? attr).map (conflictFault name)

/-- The problems of a parameter by itself. -/
def parameterFaults (input : TypedInput) : List Diagnostic :=
  match analyzeInjection input with
  | .error faults => faults
  | .ok _ => []

/-- The arguments of all markers of a parameter together. -/
def allArguments (input : TypedInput) : Except ArgumentFault (List InjectArgument) :=
  ((input.attributes.filter (Attribute.isMarker injectMarker)).mapM injectArguments).map
    List.flatten

section Kinds

variable {α : Type} {kind : α → InjectArgument} {read : InjectArgument → Option α}

/-- No argument is of a kind. -/
theorem filterMap_kind_eq_nil_iff
    (reads : ∀ argument value, read argument = some value ↔ argument = kind value)
    {found : List InjectArgument} :
    found.filterMap read = [] ↔ ∀ value, kind value ∉ found := by
  rw [List.filterMap_eq_nil_iff]
  constructor
  · intro nothing value mem
    have some := (reads _ value).mpr rfl
    rw [nothing _ mem] at some
    cases some
  · intro nothing argument mem
    rw [Option.eq_none_iff_forall_ne_some]
    intro value some
    rw [(reads argument value).mp some] at mem
    exact nothing value mem

/-- The last argument of a kind. -/
theorem getLast?_kind_eq_some_iff
    (reads : ∀ argument value, read argument = some value ↔ argument = kind value)
    {found : List InjectArgument} {last : α} :
    (found.filterMap read).getLast? = some last ↔
      ∃ earlier later, found = earlier ++ kind last :: later ∧ ∀ value, kind value ∉ later := by
  rw [List.getLast?_eq_some_iff]
  constructor
  · rintro ⟨former, values⟩
    obtain ⟨front, back, rfl, -, single⟩ := List.filterMap_eq_append_iff.mp values
    obtain ⟨between, argument, later, rfl, -, named, others⟩ :=
      List.filterMap_eq_cons_iff.mp single
    obtain rfl := (reads argument last).mp named
    exact ⟨front ++ between, later, (List.append_assoc ..).symm,
      (filterMap_kind_eq_nil_iff reads).mp others⟩
  · rintro ⟨earlier, later, rfl, others⟩
    rw [List.filterMap_append, List.filterMap_cons, (reads _ last).mpr rfl,
      (filterMap_kind_eq_nil_iff reads).mpr others]
    exact ⟨_, rfl⟩

end Kinds

theorem propertyOf?_isSome_iff {found : List InjectArgument} :
    (propertyOf? found).isSome = true ↔ ∃ text, .property text ∈ found := by
  rw [propertyOf?, List.getLast?_isSome]
  constructor
  · intro some
    obtain ⟨text, mem⟩ := List.exists_mem_of_ne_nil _ some
    obtain ⟨argument, listed, named⟩ := List.mem_filterMap.mp mem
    cases argument with
    | property text' => exact ⟨text', listed⟩
    | key _ | unknown _ => cases named
  · rintro ⟨text, listed⟩
    exact List.ne_nil_of_mem (List.mem_filterMap.mpr ⟨.property text, listed, rfl⟩)

theorem keyOf?_eq_some_iff {found : List InjectArgument} {key : StringArgument} :
    keyOf? found = some key ↔
      ∃ earlier later, found = earlier ++ .key key :: later ∧ ∀ text, .key text ∉ later :=
  getLast?_kind_eq_some_iff fun argument value => by cases argument <;> simp

theorem namesBoth_iff {found : List InjectArgument} {key : StringArgument} :
    NamesBoth found key ↔ (propertyOf? found).isSome = true ∧ keyOf? found = some key := by
  rw [propertyOf?_isSome_iff, keyOf?_eq_some_iff]
  exact ⟨fun both => ⟨both.property, both.key⟩, fun ⟨property, key⟩ => ⟨property, key⟩⟩

theorem conflictKey?_eq_some_iff {attr : Attribute} {key : StringArgument} :
    conflictKey? attr = some key ↔
      ∃ found, injectArguments attr = .ok found ∧ NamesBoth found key := by
  rw [conflictKey?]
  cases injectArguments attr with
  | error => simp
  | ok found => simp [namesBoth_iff]

theorem hasConflict_iff {input : TypedInput} {key : StringArgument} :
    HasConflict input key ↔ ∃ attr,
      input.attributes.find? (Attribute.isMarker injectMarker) = some attr ∧
      conflictKey? attr = some key := by
  simp only [conflictKey?_eq_some_iff, List.find?_eq_some_iff_append, Bool.not_eq_true']
  constructor
  · rintro ⟨earlier, attr, later, found, listed, others, marked, rest⟩
    exact ⟨attr, ⟨marked, earlier, later, listed, others⟩, found, rest⟩
  · rintro ⟨attr, ⟨marked, earlier, later, listed, others⟩, found, rest⟩
    exact ⟨earlier, attr, later, found, listed, others, marked, rest⟩

/-- A parameter with one marker conflicts exactly if its arguments, all together, name both. -/
theorem hasConflict_iff_of_single {input : TypedInput} {attr : Attribute} {key : StringArgument}
    (single : input.attributes.filter (Attribute.isMarker injectMarker) = [attr]) :
    HasConflict input key ↔
      ∃ found, allArguments input = .ok found ∧ NamesBoth found key := by
  have first : input.attributes.find? (Attribute.isMarker injectMarker) = some attr := by
    rw [← List.head?_filter, single, List.head?_cons]
  have all : allArguments input = injectArguments attr := by
    rw [allArguments, single, List.mapM_cons, List.mapM_nil]
    cases injectArguments attr with
    | error fault => rfl
    | ok found => exact congrArg Except.ok (List.append_nil found)
  rw [hasConflict_iff, all]
  simp [first, conflictKey?_eq_some_iff]

/-- `conflictFault?`, said of the parameter. -/
theorem conflictFault?_eq_some_iff {input : TypedInput} {fault : Diagnostic} :
    conflictFault? input = some fault ↔ ∃ name key, plainName input.pattern = .ok name ∧
      HasConflict input key ∧ conflictFault name key = fault := by
  rw [conflictFault?]
  simp only [hasConflict_iff]
  cases plainName input.pattern with
  | error => simp
  | ok name =>
    cases input.attributes.find? (Attribute.isMarker injectMarker) with
    | none => simp
    | some attr => simp

/-- Arguments that name both are refused before anything else is checked. -/
theorem planInjection_of_conflictKey? {attr : Attribute} {key : StringArgument}
    (conflict : conflictKey? attr = some key) (name : Name) (type : Ty) :
    planInjection name type attr = .error [conflictFault name key] := by
  obtain ⟨found, read, both⟩ := conflictKey?_eq_some_iff.mp conflict
  obtain ⟨property, last⟩ := namesBoth_iff.mp both
  obtain ⟨text, named⟩ := Option.isSome_iff_exists.mp property
  simp only [planInjection, read, bindInjection, named, last, conflictFault]

/-- A conflicting parameter has one problem. -/
theorem parameterFaults_of_hasConflict {input : TypedInput} {key : StringArgument}
    (conflict : HasConflict input key) :
    parameterFaults input = [conflictRefusal input.pattern key] := by
  obtain ⟨attr, first, both⟩ := hasConflict_iff.mp conflict
  rw [parameterFaults, analyzeInjection, conflictRefusal]
  cases plainName input.pattern with
  | error fault => rfl
  | ok name => simp only [first, planInjection_of_conflictKey? both]

theorem kind_of_bindProperty {name : Name} {type : Ty} {property : StringArgument}
    {faults : List Diagnostic} (refused : bindProperty name type property = .error faults) :
    ∀ fault ∈ faults, fault.kind = .emptyPropertyName := by
  rw [bindProperty] at refused
  split at refused
  · obtain rfl := Except.error.inj refused
    simp
  · cases refused

theorem kind_of_bindService {name : Name} {type : Ty} {key? : Option StringArgument}
    {faults : List Diagnostic} (refused : bindService name type key? = .error faults) :
    ∀ fault ∈ faults, fault.kind = .unsupportedServiceType := by
  simp only [bindService] at refused
  split at refused
  · cases refused
  · obtain rfl := Except.error.inj refused
    simp

/-- Without a conflict no check has the problem of one. -/
theorem kind_ne_of_planInjection {name : Name} {type : Ty} {attr : Attribute}
    {faults : List Diagnostic} (free : conflictKey? attr = none)
    (refused : planInjection name type attr = .error faults) {fault : Diagnostic}
    (mem : fault ∈ faults) : fault.kind ≠ .conflictingBinding := by
  rw [planInjection] at refused
  rw [conflictKey?] at free
  cases read : injectArguments attr with
  | error problem =>
    rw [read] at refused
    obtain rfl := Except.error.inj refused
    simp [List.mem_singleton.mp mem]
  | ok found =>
    rw [read] at refused free
    dsimp only at refused free
    rw [bindInjection] at refused
    split at refused
    · simp_all
    -- the checks that are left: unknown arguments, then the rule for a property or a service
    · split at refused
      · obtain rfl := Except.error.inj refused
        obtain ⟨path, -, rfl⟩ := List.mem_map.mp mem
        simp [unknownFault]
      · split at refused
        · simp [kind_of_bindProperty refused fault mem]
        · cases refused
        · simp [kind_of_bindService refused fault mem]

theorem kind_of_plainName {pattern : Pattern} {fault : Diagnostic}
    (refused : plainName pattern = .error fault) : fault.kind = .invalidPattern := by
  cases pattern with
  | name => cases refused
  | other lexemes =>
    obtain rfl := Except.error.inj refused
    rfl

/-- A parameter has the problem of a conflict exactly if it conflicts, and then once. -/
theorem filter_parameterFaults (input : TypedInput) :
    (parameterFaults input).filter (·.kind = .conflictingBinding) =
      (conflictFault? input).toList := by
  rw [parameterFaults, analyzeInjection, conflictFault?]
  cases named : plainName input.pattern with
  | error fault => simp [kind_of_plainName named]
  | ok name =>
    cases input.attributes.find? (Attribute.isMarker injectMarker) with
    | none => rfl
    | some attr =>
      dsimp only
      cases conflict : conflictKey? attr with
      | some key => simp [planInjection_of_conflictKey? conflict, conflictFault]
      | none =>
        cases refused : planInjection name input.type attr with
        | ok => rfl
        | error faults => simpa using fun fault => kind_ne_of_planInjection conflict refused

/-- The problems of a method before its return is looked at: that of its receiver, then those of
each parameter by itself. -/
def methodFaults (method : MethodItem) : List Diagnostic :=
  receiverFaults method.head ++ method.head.typedInputs.flatMap parameterFaults

theorem flatten_partition (inputs : List TypedInput) :
    (partition (inputs.map analyzeInjection)).1.flatten = inputs.flatMap parameterFaults := by
  induction inputs with
  | nil => rfl
  | cons input rest ih =>
    rw [List.flatMap_cons, ← ih, parameterFaults, List.map_cons]
    cases analyzeInjection input <;> rfl

/-- A method with such a problem is not delegated. -/
theorem analyzeMethod_of_methodFaults {method : MethodItem} (faulty : methodFaults method ≠ []) :
    analyzeMethod method = .error (methodFaults method) := by
  simp only [analyzeMethod, flatten_partition]
  rw [if_pos]
  · rfl
  · simpa [methodFaults] using faulty

/-- The conflicts of a method are those of its parameters, one for each that conflicts. -/
theorem filter_methodFaults (method : MethodItem) :
    (methodFaults method).filter (·.kind = .conflictingBinding) =
      method.head.typedInputs.filterMap conflictFault? := by
  have receiver : (receiverFaults method.head).filter (·.kind = .conflictingBinding) = [] := by
    rw [receiverFaults]
    split <;> rfl
  rw [methodFaults, List.filter_append, receiver, List.nil_append, List.filter_flatMap,
    List.filterMap_eq_flatMap_toList]
  simp only [filter_parameterFaults]

namespace Contribution

variable {α ι : Type}

theorem append_assoc (first second third : Contribution α) :
    (first.append second).append third = first.append (second.append third) := by
  simp [append]

/-- What an item adds stands between what the items around it add. -/
theorem ofItems_middle (contribution : ι → Contribution α) (before : List ι) (item : ι)
    (after : List ι) :
    ofItems contribution (before ++ item :: after) =
      ((ofItems contribution before).append (contribution item)).append
        (ofItems contribution after) := by
  induction before with
  | nil => simp [ofItems, append, empty]
  | cons head rest ih =>
    have first : ofItems contribution (head :: (rest ++ item :: after)) =
        (contribution head).append (ofItems contribution (rest ++ item :: after)) := rfl
    rw [List.cons_append, first, ih, ← append_assoc, ← append_assoc]
    rfl

end Contribution

/-- A parameter whose first marker names a message property and a service key has one problem, which
keeps its method from being delegated and adds nothing else to the block. -/
theorem analyzeImpl_conflict {block : ImplBlock} {before after : List ImplItem}
    {method : MethodItem} {input : TypedInput} {key : StringArgument}
    (listed : block.items = before ++ .method method :: after)
    (marked : method.attributes.any (Attribute.isMarker operationMarker) = true)
    (parameter : input ∈ method.head.typedInputs) (conflict : HasConflict input key) :
    parameterFaults input = [conflictRefusal input.pattern key] ∧
      analyzeMethod method = .error (methodFaults method) ∧
      (methodFaults method).filter (·.kind = .conflictingBinding) =
        method.head.typedInputs.filterMap conflictFault? ∧
      (block.traitPart = none → analyzeImpl block =
        ((Contribution.ofItems implContribution before).append ⟨[], methodFaults method⟩).append
          (Contribution.ofItems implContribution after)) ∧
      (block.traitPart ≠ none → (analyzeImpl block).operations = []) := by
  have refused := parameterFaults_of_hasConflict conflict
  have faulty : methodFaults method ≠ [] := by
    have among : conflictRefusal input.pattern key ∈ methodFaults method :=
      List.mem_append_right _ (List.mem_flatMap.mpr ⟨input, parameter, by simp [refused]⟩)
    exact List.ne_nil_of_mem among
  have rejected := analyzeMethod_of_methodFaults faulty
  refine ⟨refused, rejected, filter_methodFaults method, fun inherent => ?_, fun other => ?_⟩
  · have added : implContribution (.method method) = ⟨[], methodFaults method⟩ := by
      rw [implContribution, if_pos marked, rejected]
      rfl
    rw [analyzeImpl, inherent, listed]
    dsimp only
    rw [Contribution.ofItems_middle, added]
  · obtain ⟨lexemes, part⟩ := Option.ne_none_iff_exists'.mp other
    rw [analyzeImpl, part]

namespace Tenancy

/-- A name that stands nowhere. -/
def name (text : String) : Name := ⟨text, .nowhere⟩

/-- An argument with a value. -/
def assigned (argument literal : String) : List Tree :=
  [.leaf ⟨.word argument, .nowhere⟩, .leaf ⟨.mark '=' false, .nowhere⟩,
    .leaf ⟨.literal literal, .nowhere⟩]

/-- A comma between arguments. -/
def separator : Tree := .leaf comma

/-- A marker with arguments. -/
def inject (arguments : List Tree) : Attribute :=
  ⟨false, ⟨none, [name injectMarker]⟩, .list .parenthesis arguments .nowhere, .nowhere⟩

/-- `tenant: Option<String>` with markers. -/
def tenant (markers : List Attribute) : TypedInput :=
  ⟨markers, .name false (name "tenant"),
    .named [] (name "Option")
      (.angle [] [.type (.named [] (name "String") .absent)] false ⟨.mark '>' false, .nowhere⟩)⟩

/-- `#[operation] fn greet(&self, tenant: Option<String>) {}` with markers at the tenant. -/
def greet (markers : List Attribute) : MethodItem where
  attributes := [⟨false, ⟨none, [name operationMarker]⟩, .absent, .nowhere⟩]
  modifiers := []
  head :=
    { qualifiers := [⟨.word "fn", .nowhere⟩]
      name := name "greet"
      generics := .absent
      inputsSpan := .nowhere
      inputs := [.receiver ⟨[], true, false, false, []⟩, .typed (tenant markers)]
      trailing := false
      variadic := []
      arrow := .nowhere
      output := none
      conditions := [] }
  body := some ([], .nowhere)

/-- `impl Greetings` with that method. -/
def block (markers : List Attribute) : ImplBlock where
  attributes := []
  modifiers := [⟨.word "impl", .nowhere⟩]
  generics := .absent
  traitPart := none
  selfType := [⟨.word "Greetings", .nowhere⟩]
  conditions := []
  items := [.method (greet markers)]

/-- `#[inject(property = " ", retries, key = "primary")]` -/
def crowded : Attribute :=
  inject (assigned "property" "\" \"" ++ separator :: .leaf ⟨.word "retries", .nowhere⟩ ::
    separator :: assigned "key" "\"primary\"")

/-- `#[inject(property = "tenant")] #[inject(key = "primary")]` -/
def apart : List Attribute :=
  [inject (assigned "property" "\"tenant\""), inject (assigned "key" "\"primary\"")]

end Tenancy

open Tenancy in
/-- An empty property and an unknown argument are not reported next to the conflict. -/
theorem analyzeImpl_conflict_crowded :
    HasConflict (tenant [crowded]) ⟨"primary", .nowhere⟩ ∧
      analyzeImpl (block [crowded]) =
        ⟨[], [conflictFault (name "tenant") ⟨"primary", .nowhere⟩]⟩ := by
  have read : injectArguments crowded =
      .ok [.property ⟨" ", .nowhere⟩, .unknown ⟨none, [name "retries"]⟩,
        .key ⟨"primary", .nowhere⟩] := by rfl
  have conflict : HasConflict (tenant [crowded]) ⟨"primary", .nowhere⟩ :=
    ⟨[], _, [], _, rfl, nofun, rfl, read, ⟨_, List.mem_cons_self⟩, [_, _], [], rfl, nofun⟩
  obtain ⟨-, -, -, refused, -⟩ :=
    @analyzeImpl_conflict (block [crowded]) [] [] (greet [crowded]) (tenant [crowded])
      ⟨"primary", .nowhere⟩ rfl rfl (List.mem_singleton.mpr rfl) conflict
  exact ⟨conflict, refused rfl⟩

open Tenancy in
/-- A property and a key in markers of their own are no conflict: the second marker is not read, and
the method is delegated. -/
theorem analyzeImpl_conflict_apart :
    (∃ found, allArguments (tenant apart) = .ok found ∧
        NamesBoth found ⟨"primary", .nowhere⟩) ∧
      (block apart).items = [.method (greet apart)] ∧
      (greet apart).attributes.any (Attribute.isMarker operationMarker) = true ∧
      tenant apart ∈ (greet apart).head.typedInputs ∧
      (analyzeImpl (block apart)).diagnostics = [] ∧
      (analyzeImpl (block apart)).operations.map (·.name) = [name "greet"] := by
  have read : allArguments (tenant apart) =
      .ok [.property ⟨"tenant", .nowhere⟩, .key ⟨"primary", .nowhere⟩] := by rfl
  exact ⟨⟨_, read, ⟨_, List.mem_cons_self⟩, [_], [], rfl, nofun⟩, rfl, rfl,
    List.mem_singleton.mpr rfl, rfl, rfl⟩

end ServiceDispatch.Generate
