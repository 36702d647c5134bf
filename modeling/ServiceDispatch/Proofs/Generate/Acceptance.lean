import ServiceDispatch.Proofs.Generate.Adapter

/-!
# Which methods of a contract are served

Whether a method can be served is said of its declaration: how it takes its receiver, that it is not
generic, and of each parameter by itself which patterns and types it may have. Analysis keeps just
these methods, reports every other one by what it violates, and looks at each item of a trait alone.
Trailing parameters of any number are no parameters in this sense. Generic traits are not covered.
-/

namespace ServiceDispatch.Source

/-- A type that has no brackets around it. -/
def Ty.IsBare : Ty → Prop
  | .paren _ _ | .group _ => False
  | _ => True

/-- A type is another one with any number of brackets around it. -/
inductive Ty.Encloses (core : Ty) : Ty → Prop where
  /-- No brackets. -/
  | bare (isBare : core.IsBare) : Encloses core core
  /-- One more pair of parentheses. -/
  | paren {inner : Ty} (span : Span) (encloses : Encloses core inner) :
      Encloses core (.paren inner span)
  /-- One more pair of invisible brackets. -/
  | group {inner : Ty} (encloses : Encloses core inner) : Encloses core (.group inner)

namespace Ty

theorem Encloses.ungroup_eq {core type : Ty} (encloses : Encloses core type) :
    type.ungroup = core := by
  induction encloses with
  | bare isBare =>
    unfold ungroup
    split
    · exact isBare.elim
    · exact isBare.elim
    · rfl
  | paren span _ ih => rwa [ungroup]
  | group _ ih => rwa [ungroup]

theorem encloses_ungroup : (type : Ty) → Encloses type.ungroup type
  | .paren inner span => by
    rw [ungroup]
    exact .paren span (encloses_ungroup inner)
  | .group inner => by
    rw [ungroup]
    exact .group (encloses_ungroup inner)
  | .unit _ | .reference _ _ _ | .named _ _ _ | .bound _ _ | .implTrait _ | .other _ => by
    rw [ungroup]
    · exact .bare trivial
    all_goals exact nofun

/-- Neither a reference nor a type that is known by its traits alone. -/
def IsOwned : Ty → Prop
  | .reference _ _ _ | .implTrait _ => False
  | _ => True

end Ty

end ServiceDispatch.Source

namespace ServiceDispatch.Generate

open Source

/-- A parameter is marked as an output. -/
def IsMarkedOut (input : TypedInput) : Prop :=
  ∃ attr ∈ input.attributes, attr.path.leading = none ∧ attr.path.names.map Name.text = ["out"]

/-- A parameter that can be served, and what it is for its operation. -/
inductive Declares (input : TypedInput) : ContractParameter → Prop where
  /-- A marked mutable reference flows out. -/
  | output {mutable : Bool} {name : Name} {lead : List Lexeme} {target : Ty}
      (pattern : input.pattern = .name mutable name)
      (type : Ty.Encloses (.reference lead true target) input.type) (marked : IsMarkedOut input) :
      Declares input ⟨name, target, .output⟩
  /-- Any other mutable reference flows in and out. -/
  | inout {mutable : Bool} {name : Name} {lead : List Lexeme} {target : Ty}
      (pattern : input.pattern = .name mutable name)
      (type : Ty.Encloses (.reference lead true target) input.type)
      (unmarked : ¬ IsMarkedOut input) : Declares input ⟨name, target, .inout⟩
  /-- An owned value flows in. -/
  | input {mutable : Bool} {name : Name} {core : Ty}
      (pattern : input.pattern = .name mutable name) (type : Ty.Encloses core input.type)
      (owned : core.IsOwned) (unmarked : ¬ IsMarkedOut input) : Declares input ⟨name, core, .input⟩

/-- A parameter that cannot be served, and what is reported of it. The pattern is looked at before
the type. -/
inductive Violates (input : TypedInput) : Diagnostic → Prop where
  /-- It is no plain identifier. -/
  | pattern {lexemes : List Lexeme} (pattern : input.pattern = .other lexemes) :
      Violates input
        ⟨.invalidPattern, "operation parameters must be plain identifiers", Lexeme.spanOf lexemes⟩
  /-- It is a shared reference. -/
  | shared {mutable : Bool} {name : Name} {lead : List Lexeme} {target : Ty}
      (pattern : input.pattern = .name mutable name)
      (type : Ty.Encloses (.reference lead false target) input.type)
      (unmarked : ¬ IsMarkedOut input) :
      Violates input
        ⟨.sharedReference,
          "operation inputs are owned values; take `T` or `&mut T` instead of `&T`",
          (Ty.reference lead false target).span⟩
  /-- It is known by its traits alone. -/
  | implTrait {mutable : Bool} {name : Name} {lexemes : List Lexeme}
      (pattern : input.pattern = .name mutable name)
      (type : Ty.Encloses (.implTrait lexemes) input.type) :
      Violates input
        ⟨.genericOperation, "`impl Trait` parameters are not supported in operations",
          Lexeme.spanOf lexemes⟩
  /-- It is marked as an output, but is no mutable reference. -/
  | out {mutable : Bool} {name : Name} {core : Ty}
      (pattern : input.pattern = .name mutable name) (type : Ty.Encloses core input.type)
      (closed : core.IsOwned ∨ ∃ lead target, core = .reference lead false target)
      (marked : IsMarkedOut input) :
      Violates input ⟨.invalidOut, "`#[out]` requires a `&mut T` parameter", core.span⟩

theorem any_isMarker_iff {input : TypedInput} :
    input.attributes.any (Attribute.isMarker outMarker) = true ↔ IsMarkedOut input := by
  simp [IsMarkedOut, Attribute.isMarker, NamePath.isName, outMarker]

/-- Analysis of a parameter, with the brackets of its type taken off. -/
theorem analyzeParameter_eq (input : TypedInput) : analyzeParameter input =
    match input.pattern with
    | .other lexemes =>
      .error ⟨.invalidPattern, "operation parameters must be plain identifiers",
        Lexeme.spanOf lexemes⟩
    | .name _ name =>
      (valueAndDirection (input.attributes.any (Attribute.isMarker outMarker)) input.type).map
        fun found => ⟨name, found.1, found.2⟩ := by
  unfold analyzeParameter plainName
  cases input.pattern with
  | other lexemes => rfl
  | name mutable name =>
    dsimp only [bind, Except.bind]
    cases valueAndDirection (input.attributes.any (Attribute.isMarker outMarker)) input.type <;>
      rfl

/-- A type decides what becomes of a plain parameter, whatever brackets are around it. -/
theorem declares_or_violates_plain {input : TypedInput} {mutable : Bool} {name : Name}
    (pattern : input.pattern = .name mutable name) {isOut : Bool}
    (marked : isOut = true ↔ IsMarkedOut input) :
    (∃ found, valueAndDirection isOut input.type = .ok found ∧
        Declares input ⟨name, found.1, found.2⟩) ∨
      ∃ fault, valueAndDirection isOut input.type = .error fault ∧ Violates input fault := by
  have encloses := Ty.encloses_ungroup input.type
  unfold valueAndDirection
  generalize input.type.ungroup = core at encloses ⊢
  split
  case h_1 lead target =>
    left
    refine ⟨_, rfl, ?_⟩
    cases isOut with
    | true => exact .output pattern encloses (marked.mp rfl)
    | false => exact .inout pattern encloses (by simpa using marked)
  case h_2 lead target =>
    right
    refine ⟨_, rfl, ?_⟩
    cases isOut with
    | true => exact .out pattern encloses (.inr ⟨lead, target, rfl⟩) (marked.mp rfl)
    | false => exact .shared pattern encloses (by simpa using marked)
  case h_3 lexemes => exact .inr ⟨_, rfl, .implTrait pattern encloses⟩
  case h_4 _ mutable shared byTraits =>
    have owned : core.IsOwned := by
      unfold Ty.IsOwned
      split
      case h_1 lead isMutable target =>
        cases isMutable with
        | true => exact mutable lead target rfl
        | false => exact shared lead target rfl
      case h_2 lexemes => exact byTraits lexemes rfl
      case h_3 => trivial
    cases isOut with
    | true => exact .inr ⟨_, rfl, .out pattern encloses (.inl owned) (marked.mp rfl)⟩
    | false => exact .inl ⟨_, rfl, .input pattern encloses owned (by simpa using marked)⟩

/-- A parameter is analysed as one that can be served, or as one that cannot. -/
theorem declares_or_violates (input : TypedInput) :
    (∃ parameter, analyzeParameter input = .ok parameter ∧ Declares input parameter) ∨
      ∃ fault, analyzeParameter input = .error fault ∧ Violates input fault := by
  rw [analyzeParameter_eq]
  cases pattern : input.pattern with
  | other lexemes => exact .inr ⟨_, rfl, .pattern pattern⟩
  | name mutable name =>
    dsimp only
    obtain ⟨found, result, declares⟩ | ⟨fault, result, violates⟩ :=
      declares_or_violates_plain pattern any_isMarker_iff
    · left
      exact ⟨_, by rw [result]; rfl, declares⟩
    · right
      exact ⟨_, by rw [result]; rfl, violates⟩

theorem Declares.analyzeParameter_eq_ok {input : TypedInput} {parameter : ContractParameter}
    (declares : Declares input parameter) : analyzeParameter input = .ok parameter := by
  rw [analyzeParameter_eq]
  cases declares with
  | output pattern type marked =>
    have isOut := any_isMarker_iff.mpr marked
    simp only [pattern, valueAndDirection, type.ungroup_eq, isOut, if_true, Except.map]
  | inout pattern type unmarked =>
    have isOut := mt any_isMarker_iff.mp unmarked
    simp only [pattern, valueAndDirection, type.ungroup_eq, isOut]
    rfl
  | @input _ _ core pattern type owned unmarked =>
    have isOut := mt any_isMarker_iff.mp unmarked
    have inner := type.ungroup_eq
    cases core with
    | reference | implTrait => exact owned.elim
    | _ =>
      simp only [pattern, valueAndDirection, inner, isOut]
      rfl

theorem analyzeParameter_eq_ok_iff {input : TypedInput} {parameter : ContractParameter} :
    analyzeParameter input = .ok parameter ↔ Declares input parameter := by
  constructor
  · intro result
    obtain ⟨found, kept, declares⟩ | ⟨fault, refused, -⟩ := declares_or_violates input
    · have same : found = parameter := Except.ok.inj (kept.symm.trans result)
      rwa [← same]
    · rw [result] at refused
      contradiction
  · exact Declares.analyzeParameter_eq_ok

/-- A parameter can be served. -/
def IsServable (input : TypedInput) : Prop := ∃ parameter, Declares input parameter

theorem isServable_iff {input : TypedInput} :
    IsServable input ↔ (analyzeParameter input).isOk = true := by
  unfold IsServable
  simp only [← analyzeParameter_eq_ok_iff]
  cases analyzeParameter input <;> simp [Except.isOk, Except.toBool]

instance (input : TypedInput) : Decidable (IsServable input) :=
  decidable_of_iff _ isServable_iff.symm

/-- A method takes its receiver as `&self`, with or without a lifetime. -/
def TakesShared (head : MethodHead) : Prop :=
  ∃ receiver rest, head.inputs = .receiver receiver :: rest ∧ receiver.byReference = true ∧
    receiver.mutable = false ∧ receiver.typed = false

theorem takesShared_iff {head : MethodHead} : TakesShared head ↔ head.takesShared = true := by
  unfold TakesShared MethodHead.takesShared MethodHead.receiver?
  cases head.inputs with
  | nil => simp
  | cons first rest =>
    cases first with
    | typed input => simp
    | receiver receiver => simp [Receiver.isShared, and_assoc]

instance (head : MethodHead) : Decidable (TakesShared head) :=
  decidable_of_iff _ takesShared_iff.symm

/-- A method that can be served. -/
structure IsServed (head : MethodHead) : Prop where
  /-- It is called on `&self`. -/
  receiver : TakesShared head
  /-- It has no generic parameters. -/
  generics : head.generics.params = []
  /-- Each of its other parameters can be served. -/
  parameters : ∀ input ∈ head.typedInputs, IsServable input

instance (head : MethodHead) : Decidable (IsServed head) :=
  decidable_of_iff
    (TakesShared head ∧ head.generics.params = [] ∧ ∀ input ∈ head.typedInputs, IsServable input)
    ⟨fun ⟨receiver, generics, parameters⟩ => ⟨receiver, generics, parameters⟩,
      fun served => ⟨served.receiver, served.generics, served.parameters⟩⟩

/-- The operation of a method that is served: its parameters are what they are declared as. -/
structure Serves (declaringType : String) (head : MethodHead) (operation : ContractOperation) :
    Prop where
  /-- The parameters stand in declared order. -/
  parameters : List.Forall₂ Declares head.typedInputs operation.parameters
  /-- Everything else follows from the head of the method. -/
  operation : operation = operationOf declaringType head operation.parameters

/-- What is reported of a method: its receiver, its generic parameters, and each parameter that
cannot be served, in this order. -/
structure Reports (head : MethodHead) (faults : List Diagnostic) : Prop where
  /-- There is one report for each of them. -/
  faults : ∃ found,
    List.Forall₂ Violates (head.typedInputs.filter (¬ IsServable ·)) found ∧
    faults =
      (if TakesShared head then []
        else [⟨.invalidReceiver, "operation `" ++ head.name.text ++ "` must take `&self`",
          head.span⟩]) ++
      (if head.generics.params = [] then []
        else [⟨.genericOperation, "operation `" ++ head.name.text ++ "` must not be generic",
          Lexeme.spanOf head.generics.lexemes⟩]) ++
      found

theorem forall₂_declares {inputs : List TypedInput}
    (servable : ∀ input ∈ inputs, IsServable input) :
    List.Forall₂ Declares inputs (partition (inputs.map analyzeParameter)).2 := by
  induction inputs with
  | nil => exact .nil
  | cons input rest ih =>
    obtain ⟨⟨parameter, declares⟩, others⟩ := List.forall_mem_cons.mp servable
    have kept : (partition ((input :: rest).map analyzeParameter)).2 =
        parameter :: (partition (rest.map analyzeParameter)).2 := by
      simp [partition, declares.analyzeParameter_eq_ok]
    rw [kept]
    exact .cons declares (ih others)

theorem forall₂_violates (inputs : List TypedInput) :
    List.Forall₂ Violates (inputs.filter (¬ IsServable ·))
      (partition (inputs.map analyzeParameter)).1 := by
  induction inputs with
  | nil => exact .nil
  | cons input rest ih =>
    obtain ⟨parameter, result, declares⟩ | ⟨fault, result, violates⟩ := declares_or_violates input
    · have servable : IsServable input := ⟨parameter, declares⟩
      have passed : (partition ((input :: rest).map analyzeParameter)).1 =
          (partition (rest.map analyzeParameter)).1 := by
        simp [partition, result]
      rw [passed, List.filter_cons_of_neg (by simpa using servable)]
      exact ih
    · have refused : ¬ IsServable input := by
        rw [isServable_iff, result]
        exact Bool.false_ne_true
      have reported : (partition ((input :: rest).map analyzeParameter)).1 =
          fault :: (partition (rest.map analyzeParameter)).1 := by
        simp [partition, result]
      rw [reported, List.filter_cons_of_pos (by simpa using refused)]
      exact .cons violates ih

/-- All parameters can be served exactly if none is reported. -/
theorem forall_isServable_iff {inputs : List TypedInput} :
    (∀ input ∈ inputs, IsServable input) ↔ (partition (inputs.map analyzeParameter)).1 = [] := by
  have lengths := (forall₂_violates inputs).length_eq
  rw [← List.length_eq_zero_iff, ← lengths, List.length_eq_zero_iff, List.filter_eq_nil_iff]
  simp

theorem receiverFaults_eq (head : MethodHead) : receiverFaults head =
    if TakesShared head then []
    else [⟨.invalidReceiver, "operation `" ++ head.name.text ++ "` must take `&self`",
      head.span⟩] := by
  unfold receiverFaults
  simp only [takesShared_iff]

theorem genericFaults_eq (head : MethodHead) : genericFaults head =
    if head.generics.params = [] then []
    else [⟨.genericOperation, "operation `" ++ head.name.text ++ "` must not be generic",
      Lexeme.spanOf head.generics.lexemes⟩] := by
  unfold genericFaults Generics.isGeneric
  cases head.generics.params <;> rfl

/-- A method is analysed as one that is served, or it is reported for all that it violates. -/
theorem analyzeOperation_cases (declaringType : String) (head : MethodHead) :
    (IsServed head ∧ ∃ operation, analyzeOperation declaringType head = .ok operation ∧
        Serves declaringType head operation) ∨
      (¬ IsServed head ∧ ∃ faults, analyzeOperation declaringType head = .error faults ∧
        faults ≠ [] ∧ Reports head faults) := by
  have reports : Reports head (receiverFaults head ++ genericFaults head ++
      (partition (head.typedInputs.map analyzeParameter)).1) := by
    refine ⟨_, forall₂_violates head.typedInputs, ?_⟩
    rw [receiverFaults_eq, genericFaults_eq]
  have served_iff : IsServed head ↔ receiverFaults head ++ genericFaults head ++
      (partition (head.typedInputs.map analyzeParameter)).1 = [] := by
    rw [List.append_eq_nil_iff, List.append_eq_nil_iff, ← forall_isServable_iff,
      receiverFaults_eq, genericFaults_eq]
    constructor
    · intro served
      simp only [served.receiver, served.generics, if_true, true_and]
      exact served.parameters
    · intro ⟨⟨receiver, generics⟩, parameters⟩
      exact ⟨by simpa using receiver, by simpa using generics, parameters⟩
  unfold analyzeOperation
  dsimp only
  by_cases served : IsServed head
  · left
    have clean := served_iff.mp served
    refine ⟨served, _, if_pos (List.isEmpty_iff.mpr clean), ?_, rfl⟩
    exact forall₂_declares served.parameters
  · right
    have faulty := mt served_iff.mpr served
    refine ⟨served, _, if_neg (mt List.isEmpty_iff.mp faulty), faulty, reports⟩

/-- What an item of a contract adds: a method its operation or what it is reported for, a constant
or a type a report, and everything else nothing. -/
inductive Adds (declaringType : String) : TraitItem → Contribution ContractOperation → Prop where
  /-- A method that is served adds its operation. -/
  | served {method : MethodItem} {operation : ContractOperation} (served : IsServed method.head)
      (serves : Serves declaringType method.head operation) :
      Adds declaringType (.method method) ⟨[operation], []⟩
  /-- Any other method adds at least one report. -/
  | refused {method : MethodItem} {faults : List Diagnostic} (refused : ¬ IsServed method.head)
      (reported : faults ≠ []) (reports : Reports method.head faults) :
      Adds declaringType (.method method) ⟨[], faults⟩
  /-- Nothing else than methods may be declared. -/
  | declaration (lexemes : List Lexeme) :
      Adds declaringType (.declaration lexemes)
        ⟨[], [⟨.unsupportedItem, "service contracts may only declare methods",
          Lexeme.spanOf lexemes⟩]⟩
  /-- What only later stages of compilation can tell is left to them. -/
  | uninterpreted (lexemes : List Lexeme) :
      Adds declaringType (.uninterpreted lexemes) ⟨[], []⟩

theorem adds_contractContribution (declaringType : String) (item : TraitItem) :
    Adds declaringType item (contractContribution true declaringType item) := by
  cases item with
  | method method =>
    simp only [contractContribution, if_true]
    obtain ⟨served, operation, result, serves⟩ | ⟨refused, faults, result, reported, reports⟩ :=
      analyzeOperation_cases declaringType method.head
    · rw [result]
      exact .served served serves
    · rw [result]
      exact .refused refused reported reports
  | declaration lexemes => exact .declaration lexemes
  | uninterpreted lexemes => exact .uninterpreted lexemes

/-- The trait with other items. -/
def withItems (decl : TraitDecl) (items : List TraitItem) : TraitDecl := { decl with items }

/-- What is found in a trait with other items. -/
def foundIn (decl : TraitDecl) (givenNamespace : Option String) (items : List TraitItem) :
    Contribution ContractOperation :=
  let contract := analyzeContract (withItems decl items) givenNamespace
  ⟨contract.operations, contract.diagnostics⟩

/-- What is generated for the operations of a trait: the table of them, and the items of each. -/
def generatedFor (decl : TraitDecl) (givenNamespace : Option String) : Code × List Code :=
  let contract := analyzeContract decl givenNamespace
  (tableCode contract, contract.operations.map (operationCode contract))

/-- Analysis of a trait item by item. -/
structure AnalysesItems (decl : TraitDecl) (givenNamespace : Option String) : Prop where
  /-- The contract can be described. -/
  supported : (analyzeContract decl givenNamespace).supported = true
  /-- Its operations are those of the methods that are served, in declared order. -/
  operations : List.Forall₂
    (fun method => Serves (declaringType givenNamespace decl.name) method.head)
    (decl.methods.filter (IsServed ·.head)) (analyzeContract decl givenNamespace).operations
  /-- Every item that is the only one of the trait adds what its form and its head say. -/
  alone : ∀ item, Adds (declaringType givenNamespace decl.name) item
    (foundIn decl givenNamespace [item])
  /-- The items of the trait add this one after another. -/
  together :
    (analyzeContract decl givenNamespace).operations =
        decl.items.flatMap (foundIn decl givenNamespace [·] |>.operations) ∧
      (analyzeContract decl givenNamespace).diagnostics =
        decl.items.flatMap (foundIn decl givenNamespace [·] |>.diagnostics)
  /-- An item without an operation changes nothing that is found in the others or generated for
  them; its reports stand between those of the items around it. -/
  apart : ∀ before item after, decl.items = before ++ item :: after →
    (foundIn decl givenNamespace [item]).operations = [] →
    (analyzeContract decl givenNamespace).operations =
        (foundIn decl givenNamespace (before ++ after)).operations ∧
      generatedFor decl givenNamespace =
        generatedFor (withItems decl (before ++ after)) givenNamespace ∧
      (foundIn decl givenNamespace (before ++ after)).diagnostics =
        (foundIn decl givenNamespace before).diagnostics ++
          (foundIn decl givenNamespace after).diagnostics ∧
      (analyzeContract decl givenNamespace).diagnostics =
        (foundIn decl givenNamespace before).diagnostics ++
          (foundIn decl givenNamespace [item]).diagnostics ++
          (foundIn decl givenNamespace after).diagnostics

/-- What is generated for operations depends on nothing else in the items of the trait. -/
theorem generatedFor_congr {decl : TraitDecl} {givenNamespace : Option String}
    {items : List TraitItem} (same : (analyzeContract decl givenNamespace).operations =
      (foundIn decl givenNamespace items).operations) :
    generatedFor decl givenNamespace = generatedFor (withItems decl items) givenNamespace := by
  unfold generatedFor tableCode
  dsimp only
  rw [same]
  rfl

theorem ofItems_eq_flatMap {ι α : Type} (contribution : ι → Contribution α) (items : List ι) :
    Contribution.ofItems contribution items =
      ⟨items.flatMap (contribution · |>.operations),
        items.flatMap (contribution · |>.diagnostics)⟩ := by
  induction items with
  | nil => rfl
  | cons item rest ih =>
    have first : Contribution.ofItems contribution (item :: rest) =
        (contribution item).append (Contribution.ofItems contribution rest) := rfl
    rw [first, ih]
    rfl

section Plain

variable {decl : TraitDecl} (plain : decl.generics.params = []) (givenNamespace : Option String)

include plain

/-- In a trait that is not generic, items are looked at one after another. -/
theorem foundIn_eq (items : List TraitItem) : foundIn decl givenNamespace items =
    Contribution.ofItems
      (contractContribution true (declaringType givenNamespace decl.name)) items := by
  have supported : decl.generics.isGeneric = false := by
    unfold Generics.isGeneric
    rw [plain]
    rfl
  unfold foundIn analyzeContract withItems contractFaults
  simp only [supported]
  rfl

theorem foundIn_singleton (item : TraitItem) : foundIn decl givenNamespace [item] =
    contractContribution true (declaringType givenNamespace decl.name) item := by
  rw [foundIn_eq plain, ofItems_eq_flatMap]
  simp only [List.flatMap_singleton]

/-- What is found in a trait is what is found in each of its items. -/
theorem foundIn_eq_flatMap (items : List TraitItem) : foundIn decl givenNamespace items =
    ⟨items.flatMap (foundIn decl givenNamespace [·] |>.operations),
      items.flatMap (foundIn decl givenNamespace [·] |>.diagnostics)⟩ := by
  rw [foundIn_eq plain, ofItems_eq_flatMap]
  simp only [foundIn_singleton plain]

theorem adds_foundIn (item : TraitItem) :
    Adds (declaringType givenNamespace decl.name) item (foundIn decl givenNamespace [item]) := by
  rw [foundIn_singleton plain]
  exact adds_contractContribution _ item

/-- The operations that are found are those of the methods that are served. -/
theorem forall₂_serves (items : List TraitItem) :
    List.Forall₂ (fun method => Serves (declaringType givenNamespace decl.name) method.head)
      ((withItems decl items).methods.filter (IsServed ·.head))
      (foundIn decl givenNamespace items).operations := by
  induction items with
  | nil =>
    rw [foundIn_eq_flatMap plain]
    exact .nil
  | cons item rest ih =>
    have first : (foundIn decl givenNamespace (item :: rest)).operations =
        (foundIn decl givenNamespace [item]).operations ++
          (foundIn decl givenNamespace rest).operations := by
      rw [foundIn_eq_flatMap plain, foundIn_eq_flatMap plain givenNamespace rest]
      rfl
    rw [first]
    have adds := adds_foundIn plain givenNamespace item
    generalize foundIn decl givenNamespace [item] = found at adds ⊢
    cases adds with
    | @served method operation served serves =>
      have kept : (withItems decl (.method method :: rest)).methods.filter (IsServed ·.head) =
          method :: (withItems decl rest).methods.filter (IsServed ·.head) :=
        List.filter_cons_of_pos (by simpa using served)
      rw [kept]
      exact .cons serves ih
    | @refused method faults refused reported reports =>
      have left : (withItems decl (.method method :: rest)).methods.filter (IsServed ·.head) =
          (withItems decl rest).methods.filter (IsServed ·.head) :=
        List.filter_cons_of_neg (by simpa using refused)
      rw [left]
      exact ih
    | declaration lexemes => exact ih
    | uninterpreted lexemes => exact ih

/-- Analysis of a trait that is not generic serves the methods that can be served, reports every
other item by what it violates, and looks at each item alone. -/
theorem analyzeContract_items : AnalysesItems decl givenNamespace where
  supported := by
    unfold analyzeContract Generics.isGeneric
    rw [plain]
    rfl
  operations := forall₂_serves plain givenNamespace decl.items
  alone := adds_foundIn plain givenNamespace
  together := by
    have found := foundIn_eq_flatMap plain givenNamespace decl.items
    constructor
    · exact congrArg Contribution.operations found
    · exact congrArg Contribution.diagnostics found
  apart := by
    intro before item after items nothing
    have whole := foundIn_eq_flatMap plain givenNamespace decl.items
    have others := foundIn_eq_flatMap plain givenNamespace (before ++ after)
    have earlier := foundIn_eq_flatMap plain givenNamespace before
    have later := foundIn_eq_flatMap plain givenNamespace after
    have operations : (analyzeContract decl givenNamespace).operations =
        (foundIn decl givenNamespace (before ++ after)).operations := by
      refine (congrArg Contribution.operations whole).trans ?_
      rw [others, items]
      simp [nothing]
    refine ⟨operations, ?_, ?_, ?_⟩
    · exact generatedFor_congr operations
    · rw [others, earlier, later]
      simp
    · refine (congrArg Contribution.diagnostics whole).trans ?_
      rw [earlier, later, items]
      simp

end Plain

namespace Recording

/-- `fn audit<T>(&mut self, (a, b): Pair, limit: (u64), note: &String)` -/
def auditHead : MethodHead :=
  { head with
    qualifiers := [⟨.word "fn", .nowhere⟩]
    name := name "audit"
    generics := ⟨.nowhere, [⟨false, [⟨.word "T", .nowhere⟩], []⟩], false, .nowhere⟩
    inputs :=
      [.receiver ⟨[], true, true, false, []⟩, .typed ⟨[], .other [comma], named "Pair"⟩,
        parameter [] "limit" (.paren (named "u64") .nowhere),
        parameter [] "note" (.reference [] false (named "String"))]
    output := none }

/-- The contract `Audits` with `audit`, a constant and `record`. -/
def audits : TraitDecl where
  attributes := []
  modifiers := [⟨.word "trait", .nowhere⟩]
  name := name "Audits"
  generics := .absent
  supertraits := []
  trailingPlus := false
  conditions := []
  items :=
    [.method ⟨[], [], auditHead, none⟩, .declaration [⟨.word "const", .nowhere⟩],
      .method ⟨[], [], head, none⟩]

end Recording

open Recording in
theorem analyzeContract_items_audits :
    audits.generics.params = [] ∧ AnalysesItems audits (some "books") ∧
      (audits.methods.filter (IsServed ·.head)).map (·.head.name.text) = ["record"] ∧
      (analyzeContract audits (some "books")).diagnostics.map (·.kind) =
        [.invalidReceiver, .genericOperation, .invalidPattern, .sharedReference,
          .unsupportedItem] :=
  ⟨rfl, analyzeContract_items rfl (some "books"), by decide +kernel, by decide +kernel⟩

end ServiceDispatch.Generate
