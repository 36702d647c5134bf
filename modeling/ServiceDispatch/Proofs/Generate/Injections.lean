import ServiceDispatch.Proofs.Generate.Binding

/-!
# Injected parameters in a block

A parameter that is refused keeps its whole method from being delegated, and no other one: the
methods of a block are analysed one after another. Which methods can be delegated beyond that, by
their receivers and their returns, is not the subject here.
-/

namespace ServiceDispatch.Generate

open Source

variable {name : Name} {type : Ty} {found : List InjectArgument} {input : TypedInput}

theorem Binds.faults_ne_nil {faults : List Diagnostic}
    (binds : Binds name type found (.error faults)) : faults ≠ [] := by
  cases binds with
  | unknown single mem =>
    rw [ne_eq, List.map_eq_nil_iff, unknownOf_eq_nil_iff]
    exact fun known => known _ mem
  | conflict | emptyProperty | unsupported => exact List.cons_ne_nil _ _

/-- There is something to report of every parameter that is refused. -/
theorem Provides.faults_ne_nil {faults : List Diagnostic}
    (provides : Provides input (.error faults)) : faults ≠ [] := by
  cases provides with
  | refused _ _ _ binds => exact binds.faults_ne_nil
  | pattern | unreadable => exact List.cons_ne_nil _ _

theorem Provides.parameterFaults_eq {faults : List Diagnostic}
    (provides : Provides input (.error faults)) : parameterFaults input = faults := by
  rw [parameterFaults, provides.analyzeInjection_eq]

/-- A parameter that is refused keeps its method from being delegated. What is reported of it stands
between what is reported of the parameters around it. -/
theorem Provides.analyzeMethod_eq {method : MethodItem} {before after : List TypedInput}
    {faults : List Diagnostic} (listed : method.head.typedInputs = before ++ input :: after)
    (provides : Provides input (.error faults)) :
    analyzeMethod method =
      .error (receiverFaults method.head ++ before.flatMap parameterFaults ++ faults ++
        after.flatMap parameterFaults) := by
  have all : methodFaults method = receiverFaults method.head ++ before.flatMap parameterFaults ++
      faults ++ after.flatMap parameterFaults := by
    rw [methodFaults, listed, List.flatMap_append, List.flatMap_cons, provides.parameterFaults_eq]
    simp only [List.append_assoc]
  rw [← all]
  refine analyzeMethod_of_methodFaults fun nothing => ?_
  rw [all] at nothing
  simp [provides.faults_ne_nil] at nothing

/-- A parameter of a method is not refused, but supplied as one of its delegation. -/
def Supplies (input : TypedInput) (parameter : Name × WrapperParameter Ty) : Prop :=
  Provides input (.ok parameter)

/-- Parameters of which nothing is reported are all supplied, in declared order. -/
theorem forall₂_supplies {inputs : List TypedInput} (clean : inputs.flatMap parameterFaults = []) :
    List.Forall₂ Supplies inputs (partition (inputs.map analyzeInjection)).2 := by
  have kept : inputs.map analyzeInjection =
      (partition (inputs.map analyzeInjection)).2.map .ok := by
    refine eq_map_ok_of_partition (List.filterMap_eq_nil_iff.mpr fun result mem => ?_)
    obtain ⟨input, listed, rfl⟩ := List.mem_map.mp mem
    cases refused : analyzeInjection input with
    | ok parameter => rfl
    | error faults =>
      have provides := analyzeInjection_eq_iff.mp refused
      have nothing := List.flatMap_eq_nil_iff.mp clean input listed
      rw [provides.parameterFaults_eq] at nothing
      exact absurd nothing provides.faults_ne_nil
  have same : List.Forall₂ (· = ·) (inputs.map analyzeInjection)
      ((partition (inputs.map analyzeInjection)).2.map .ok) := by
    rw [← kept]
    exact List.forall₂_refl _
  rw [List.forall₂_map_left_iff, List.forall₂_map_right_iff] at same
  exact same.imp fun input parameter => analyzeInjection_eq_iff.mp

/-- A method that is delegated has a receiver and all its parameters, in declared order. -/
theorem analyzeMethod_ok {method : MethodItem} {delegation : Delegation}
    (accepted : analyzeMethod method = .ok delegation) :
    TakesShared method.head ∧ ∃ parameters,
      List.Forall₂ Supplies method.head.typedInputs parameters ∧
      delegation = ⟨method.head.name, ⟨parameters.map Prod.snd, method.head.isAsync⟩,
        wrapperHead method.head parameters,
        method.attributes.filter fun attr =>
          forwardedMarkers.any fun marker => attr.isMarker marker⟩ := by
  rw [analyzeMethod] at accepted
  dsimp only at accepted
  split at accepted
  · cases accepted
  · rename_i clean
    rw [Bool.not_eq_true', Bool.not_eq_false, List.isEmpty_iff, List.append_eq_nil_iff,
      flatten_partition] at clean
    obtain ⟨receiver, parameters⟩ := clean
    split at accepted
    · cases accepted
    · refine ⟨?_, _, forall₂_supplies parameters, (Except.ok.inj accepted).symm⟩
      by_contra other
      rw [receiverFaults_eq, if_neg other] at receiver
      cases receiver

/-- A method is marked to serve a contract. -/
def IsOperation (method : MethodItem) : Prop :=
  method.attributes.any (Attribute.isMarker operationMarker) = true

instance (method : MethodItem) : Decidable (IsOperation method) :=
  inferInstanceAs (Decidable (_ = true))

/-- What a marked method adds to an analysis: its delegation, or its problems. -/
def methodContribution (method : MethodItem) : Contribution Delegation :=
  .ofResult (analyzeMethod method)

/-- An implementation block with other items. -/
def withImplItems (block : ImplBlock) (items : List ImplItem) : ImplBlock := { block with items }

/-- Only the marked methods of a block add anything. -/
theorem flatMap_implContribution {β : Type} {part : Contribution Delegation → List β}
    (nothing : part .empty = []) (block : ImplBlock) :
    block.items.flatMap (part <| implContribution ·) =
      (block.methods.filter (IsOperation ·)).flatMap (part <| methodContribution ·) := by
  rw [ImplBlock.methods]
  induction block.items with
  | nil => rfl
  | cons item rest ih =>
    rw [List.flatMap_cons, ih]
    cases item with
    | other lexemes => simp [implContribution, nothing]
    | method method =>
      by_cases marked : IsOperation method
      · have added : implContribution (.method method) = methodContribution method := if_pos marked
        simp [added, marked]
      · have added : implContribution (.method method) = .empty := if_neg marked
        simp [added, nothing, marked]

/-- The marked methods of a block are analysed one after another. -/
theorem analyzeImpl_eq_flatMap {block : ImplBlock} (inherent : block.traitPart = none) :
    analyzeImpl block =
      ⟨(block.methods.filter (IsOperation ·)).flatMap (methodContribution · |>.operations),
        (block.methods.filter (IsOperation ·)).flatMap (methodContribution · |>.diagnostics)⟩ := by
  rw [analyzeImpl, inherent]
  dsimp only
  rw [ofItems_eq_flatMap, flatMap_implContribution rfl, flatMap_implContribution rfl]

/-- A method that is not delegated adds no operation. -/
theorem operations_implContribution {method : MethodItem} {faults : List Diagnostic}
    (rejected : analyzeMethod method = .error faults) :
    (implContribution (.method method)).operations = [] := by
  rw [implContribution, rejected]
  split <;> rfl

/-- How injected parameters are analysed, and what becomes of the methods of a block. -/
structure AnalysesInjections (block : ImplBlock) : Prop where
  /-- Whatever the type of a parameter and the arguments of its marker are, one case applies, -/
  oneCase : ∀ name type found, ∃! result, Binds name type found result
  /-- and it is the one that is taken. -/
  taken : ∀ name type found result,
    bindInjection name type found = result ↔ Binds name type found result
  /-- A parameter is bound by its own type and the arguments of its own marker. -/
  provides : ∀ input result, analyzeInjection input = result ↔ Provides input result
  /-- One that is refused keeps its method from being delegated, and is reported in its place. -/
  refused : ∀ {method input before after faults},
    method.head.typedInputs = before ++ input :: after → Provides input (.error faults) →
    faults ≠ [] ∧ analyzeMethod method =
      .error (receiverFaults method.head ++ before.flatMap parameterFaults ++ faults ++
        after.flatMap parameterFaults)
  /-- A method is delegated with all of its parameters, in declared order. -/
  delegated : ∀ {method delegation}, analyzeMethod method = .ok delegation →
    ∃ parameters, List.Forall₂ Supplies method.head.typedInputs parameters ∧
      delegation.plan.parameters = parameters.map Prod.snd
  /-- The operations and the problems of a block are those of its marked methods one after
  another. -/
  together : block.traitPart = none →
    (analyzeImpl block).operations =
        (block.methods.filter (IsOperation ·)).flatMap (methodContribution · |>.operations) ∧
      (analyzeImpl block).diagnostics =
        (block.methods.filter (IsOperation ·)).flatMap (methodContribution · |>.diagnostics)
  /-- A method that is not delegated takes no other one with it. -/
  apart : ∀ {before method after faults}, block.traitPart = none →
    block.items = before ++ .method method :: after → analyzeMethod method = .error faults →
    (analyzeImpl block).operations =
      (analyzeImpl (withImplItems block (before ++ after))).operations
  /-- A block that implements a trait has no operations and one problem. -/
  other : ∀ {lexemes}, block.traitPart = some lexemes →
    (analyzeImpl block).operations = [] ∧
      (analyzeImpl block).diagnostics.map (·.kind) = [.invalidAttribute]

/-- In every block, injected parameters are bound or refused by themselves, and methods delegated or
refused by themselves. -/
theorem analyzeImpl_injections (block : ImplBlock) : AnalysesInjections block where
  oneCase name type found := by
    obtain ⟨result, binds⟩ := exists_binds name type found
    refine ⟨result, binds, fun other otherBinds => ?_⟩
    exact otherBinds.bindInjection_eq.symm.trans binds.bindInjection_eq
  taken name type found result := bindInjection_eq_iff
  provides input result := analyzeInjection_eq_iff
  refused listed provides := ⟨provides.faults_ne_nil, provides.analyzeMethod_eq listed⟩
  delegated accepted := by
    obtain ⟨-, parameters, supplied, rfl⟩ := analyzeMethod_ok accepted
    exact ⟨parameters, supplied, rfl⟩
  together inherent := by
    rw [analyzeImpl_eq_flatMap inherent]
    exact ⟨rfl, rfl⟩
  apart {before method after faults} inherent listed rejected := by
    have nothing := operations_implContribution rejected
    rw [analyzeImpl, analyzeImpl, withImplItems, inherent]
    dsimp only
    rw [listed, ofItems_eq_flatMap, ofItems_eq_flatMap]
    simp [nothing]
  other part := by
    rw [analyzeImpl, part]
    exact ⟨rfl, rfl⟩

end ServiceDispatch.Generate
