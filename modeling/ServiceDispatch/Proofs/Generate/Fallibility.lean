import ServiceDispatch.Proofs.Generate.Reading
import ServiceDispatch.Proofs.Generate.Wrapping
import ServiceDispatch.Proofs.Source.Returns

/-!
# Wrappers that can fail

A wrapper hands the errors of its bindings on with a question mark. It may do so only if its return
can carry them, and how it opens its scope has to fit how it reads from it. Question marks are
counted over the tokens of its body; types are written into that as they are, with whatever question
marks they have themselves. What the methods of scopes do when it runs is not the subject here.
-/

namespace ServiceDispatch.Generate

open Source Code

/-- A statement binds an injected parameter to what is read from the scope, and asks for it exactly
if the binding can fail. -/
inductive BindsBy {form : ScopeForm} (parameter : WrapperParameter Ty) : ScopeStatement form → Prop
    where
  /-- By the binding of the parameter. -/
  | resolved {injected : Injected Ty} {statement : ScopeStatement form}
      (provision : parameter.provision = .injected injected) (binds : statement.Binds parameter)
      (asks : statement.lookup.asks = injected.plan.isFallible) : BindsBy parameter statement

/-- The body of a wrapper that opens a scope and holds it in some form. -/
inductive UsesScope (form : ScopeForm) (delegation : Delegation) : Code → Prop where
  /-- The scope is opened, all injected parameters are bound by it, and the method is called. -/
  | body {statements : List (ScopeStatement form)}
      (binds : List.Forall₂ BindsBy (delegation.plan.parameters.filter (! ·.isContract))
        statements) :
      UsesScope form delegation (scopedBody statements (delegateCode delegation))

/-- A token is a question mark. -/
def isQuestion : Token → Bool
  | .mark c _ => c = '?'
  | _ => false

/-- The number of question marks in some code. -/
def questions (code : Code) : Nat := code.countP isQuestion

/-- The types that a wrapper writes to bind a parameter. -/
def writtenTypes (parameter : WrapperParameter Ty) : List Ty :=
  match parameter.provision with
  | .caller => []
  | .injected injected =>
    match injected.plan with
    | .transport _ => [parameter.type]
    | _ => [parameter.type, injected.target]

/-- The number of question marks in some types. -/
def typeQuestions (types : List Ty) : Nat := questions (types.flatMap Ty.tokens)

/-- The return of a method can carry an error. -/
def CarriesErrors (head : MethodHead) : Prop :=
  ∃ type, head.output = some type ∧ type.EndsIn "Result"

/-- A wrapper asks only where its return can carry the error. -/
structure AsksWhereCarried (delegation : Delegation) : Prop where
  /-- If a binding can fail, the wrapper returns a `Result`, -/
  carried : delegation.plan.isFallible = true → CarriesErrors delegation.wrapper
  /-- and it asks for a scope and reads from it as it is. -/
  required : delegation.plan.isFallible = true →
    UsesScope .plain delegation (wrapperBody delegation)
  /-- If none can fail, all bindings are message properties, -/
  properties : delegation.plan.isFallible = false → ∀ injected ∈ delegation.plan.injected,
    ∃ name typeName, injected.plan = .messageProperty name typeName
  /-- and the wrapper reads them from a scope that may be absent, -/
  available : delegation.plan.isFallible = false → delegation.plan.injected ≠ [] →
    UsesScope .optional delegation (wrapperBody delegation)
  /-- or opens none, if there are no bindings at all. -/
  direct : delegation.plan.injected = [] → wrapperBody delegation = delegateCode delegation
  /-- Apart from those of the types that it writes, a wrapper that can fail has a question mark for
  the scope and one for each binding that can fail, and any other wrapper has none. -/
  marks : questions (wrapperBody delegation) =
    typeQuestions (delegation.plan.parameters.flatMap writtenTypes) +
      if delegation.plan.isFallible then
        1 + delegation.plan.injected.countP (·.plan.isFallible)
      else 0

/-- The parameters of a method, the object included, are all in order. -/
structure IsProvided (method : MethodItem) (parameters : List (Name × WrapperParameter Ty)) :
    Prop where
  /-- The method is called on `&self`. -/
  receiver : TakesShared method.head
  /-- All other parameters are supplied. -/
  supplied : List.Forall₂ Supplies method.head.typedInputs parameters

/-- The wrapper of a method with some parameters, as it is planned. -/
def plannedWrapper (method : MethodItem) (parameters : List (Name × WrapperParameter Ty)) :
    WrapperPlan Ty :=
  ⟨parameters.map Prod.snd, method.head.isAsync⟩

/-- In a block, bindings fail only where a return can carry their errors. -/
structure KeepsErrorsCarried (block : ImplBlock) : Prop where
  /-- Every wrapper is that of a marked method with the same return, and asks only where it may. -/
  accepted : ∀ delegation ∈ (analyzeImpl block).operations, ∃ method ∈ block.methods,
    IsOperation method ∧ analyzeMethod method = .ok delegation ∧
      delegation.wrapper.output = method.head.output ∧ AsksWhereCarried delegation
  /-- A method whose parameters are in order is delegated if no binding can fail, or the return can
  carry the errors; -/
  delegated : ∀ {method parameters}, IsProvided method parameters →
    ((plannedWrapper method parameters).isFallible = true → CarriesErrors method.head) →
    ∃ delegation, analyzeMethod method = .ok delegation ∧
      delegation.plan = plannedWrapper method parameters
  /-- otherwise it is refused for just this, has no wrapper, and is reported in its place. -/
  refused : ∀ {before method after parameters}, block.traitPart = none →
    block.items = before ++ .method method :: after → IsOperation method →
    IsProvided method parameters → (plannedWrapper method parameters).isFallible = true →
    ¬ CarriesErrors method.head →
    (infallibleFault method.head).kind = .infallibleReturn ∧
      analyzeMethod method = .error [infallibleFault method.head] ∧
      analyzeImpl block =
        ((Contribution.ofItems implContribution before).append
          ⟨[], [infallibleFault method.head]⟩).append (Contribution.ofItems implContribution after)

/-- A wrapper uses its scope in the way in which it opens it. -/
theorem usesScope_wrapperBody {delegation : Delegation} (some : delegation.plan.injected ≠ []) :
    UsesScope (.ofUse delegation.plan.scopeUse) delegation (wrapperBody delegation) := by
  obtain ⟨statements, binds, body⟩ := exists_scopedBody some
  rw [body]
  refine .body (binds.flip.imp fun parameter statement bound => ?_)
  cases bound with
  | injected serves => exact .resolved rfl (.injected serves) serves.asks_eq

@[simp] theorem questions_nil : questions [] = 0 := rfl

@[simp] theorem questions_append (first second : Code) :
    questions (first ++ second) = questions first + questions second := List.countP_append

@[simp] theorem questions_word (name : String) : questions (word name) = 0 := rfl

@[simp] theorem questions_text (value : String) : questions (text value) = 0 := rfl

@[simp] theorem questions_parens (inner : Code) : questions (parens inner) = questions inner := by
  simp [parens, enclosed, questions, isQuestion]

@[simp] theorem questions_turbofish (inner : Code) :
    questions (turbofish inner) = questions inner := by
  have outer : questions (mark "::") = 0 ∧ questions (mark "<") = 0 ∧ questions (mark ">") = 0 := by
    decide
  simp [turbofish, outer]

theorem questions_commas_words (names : List String) :
    questions (commas (names.map word)) = 0 := by
  induction names with
  | nil => rfl
  | cons name rest ih =>
    cases rest with
    | nil => rfl
    | cons next rest =>
      have comma : questions (mark ",") = 0 := by decide
      rw [List.map_cons] at ih ⊢
      rw [List.map_cons, Reader.commas_cons_cons, questions_append, questions_append, ih, comma,
        questions_word]

theorem questions_delegateCode (delegation : Delegation) :
    questions (delegateCode delegation) = 0 := by
  have names : (delegation.plan.parameters.map fun parameter => word parameter.name) =
      (delegation.plan.parameters.map (·.name)).map word := by
    rw [List.map_map]
    rfl
  have outer : questions (mark "::") = 0 ∧ questions (mark ",") = 0 ∧ questions (mark ".") = 0 := by
    decide
  have arguments := questions_commas_words (delegation.plan.parameters.map (·.name))
  rw [delegateCode, names]
  generalize commas ((delegation.plan.parameters.map (·.name)).map word) = listed at arguments ⊢
  cases delegation.plan.awaits <;> simp [arguments, outer]

/-- A look-up asks once if its binding can fail, however the scope is held. -/
theorem questions_lookup {form : ScopeForm} {lookup : Lookup form} {injected : Injected Ty}
    (serves : lookup.Serves injected) :
    questions lookup.code =
      (match injected.plan with
        | .transport _ => 0
        | _ => questions injected.target.tokens) +
        if injected.plan.isFallible then 1 else 0 := by
  have outer : questions (mark ".") = 0 ∧ questions (mark "|") = 0 ∧ questions (mark "?") = 1 := by
    decide
  have initial (orInitial : Bool) : questions (Lookup.initialCode orInitial) = 0 := by
    cases orInitial <;> decide
  have property (object name : String) (target : Ty) :
      questions (Lookup.propertyCall object name target) = questions target.tokens := by
    simp [Lookup.propertyCall, outer]
  have service (target : Ty) (key : Option String) (required : Bool) :
      questions (Lookup.serviceCall "__opbind_scope" target key required) =
        questions target.tokens := by
    cases key <;> cases required <;> simp [Lookup.serviceCall, outer]
  cases serves with
  | @transport part => cases part <;> rfl
  | property => cases form <;>
      simp [Lookup.code, property, initial, outer, ResolutionPlan.isFallible]
  | keyedService | defaultService =>
    simp [Lookup.code, service, outer, ResolutionPlan.isFallible]

/-- The statement of a parameter asks for what its binding asks for. -/
theorem questions_statement {form : ScopeForm} {statement : ScopeStatement form}
    {parameter : WrapperParameter Ty} (binds : statement.Binds parameter) :
    questions statement.code =
      typeQuestions (writtenTypes parameter) +
        parameter.injected?.toList.countP (·.plan.isFallible) := by
  cases binds with
  | @injected name type injected lookup serves =>
    have outer : questions (mark ":") = 0 ∧ questions (mark "=") = 0 ∧ questions (mark ";") = 0 := by
      decide
    have count : [injected].countP (·.plan.isFallible) =
        if injected.plan.isFallible then 1 else 0 := by
      rw [List.countP_singleton]
    have looked := questions_lookup serves
    obtain ⟨plan, target, isOptional⟩ := injected
    simp only [ScopeStatement.code, questions_append, questions_word, outer, looked,
      WrapperParameter.injected?, Option.toList_some, count]
    cases plan <;> simp [writtenTypes, typeQuestions] <;> omega

theorem questions_statements {form : ScopeForm} {statements : List (ScopeStatement form)}
    {parameters : List (WrapperParameter Ty)}
    (binds : List.Forall₂ ScopeStatement.Binds statements
      (parameters.filter (! ·.isContract))) :
    questions (statements.map ScopeStatement.code).flatten =
      typeQuestions (parameters.flatMap writtenTypes) +
        (parameters.filterMap WrapperParameter.injected?).countP (·.plan.isFallible) := by
  induction parameters generalizing statements with
  | nil =>
    cases binds
    rfl
  | cons parameter rest ih =>
    obtain ⟨name, type, provision⟩ := parameter
    cases provision with
    | caller => exact ih binds
    | injected injected =>
      cases binds with
      | @cons statement _ statements _ bound others =>
        have types : typeQuestions ((⟨name, type, .injected injected⟩ :: rest).flatMap
            writtenTypes) = typeQuestions (writtenTypes ⟨name, type, .injected injected⟩) +
              typeQuestions (rest.flatMap writtenTypes) := by
          rw [List.flatMap_cons, typeQuestions, List.flatMap_append, questions_append]
          rfl
        have named : (⟨name, type, .injected injected⟩ : WrapperParameter Ty).injected? =
            some injected := rfl
        rw [List.map_cons, List.flatten_cons, questions_append, questions_statement bound,
          ih others, types, List.filterMap_cons_some named, named, Option.toList_some]
        simp only [List.countP_cons, List.countP_nil]
        omega

/-- A body that opens a scope asks for what its bindings ask for, and perhaps for the scope. -/
theorem questions_scopedBody {form : ScopeForm} {statements : List (ScopeStatement form)}
    {delegation : Delegation}
    (binds : List.Forall₂ ScopeStatement.Binds statements
      (delegation.plan.parameters.filter (! ·.isContract))) :
    questions (scopedBody statements (delegateCode delegation)) =
      typeQuestions (delegation.plan.parameters.flatMap writtenTypes) +
        ((if form = .plain then 1 else 0) +
          delegation.plan.injected.countP (·.plan.isFallible)) := by
  have outer : questions (path ["core", "mem", "drop"]) = 0 ∧ questions (mark "=") = 0 ∧
      questions (mark ";") = 0 := by
    decide
  have opening : questions form.opening = if form = .plain then 1 else 0 := by
    cases form <;> decide
  rw [scopedBody, WrapperPlan.injected]
  simp only [questions_append, questions_word, opening, questions_statements binds,
    questions_delegateCode, questions_parens, outer]
  omega

/-- A wrapper without bindings writes no types. -/
theorem flatMap_writtenTypes_of_nil {plan : WrapperPlan Ty} (nothing : plan.injected = []) :
    plan.parameters.flatMap writtenTypes = [] := by
  rw [List.flatMap_eq_nil_iff]
  intro parameter mem
  rw [writtenTypes]
  cases provision : parameter.provision with
  | caller => rfl
  | injected injected =>
    have bound := mem_injected_iff.mpr ⟨parameter, mem, provision⟩
    rw [nothing] at bound
    cases bound

/-- The question marks of a wrapper, counted. -/
theorem marks_wrapperBody (delegation : Delegation) :
    questions (wrapperBody delegation) =
      typeQuestions (delegation.plan.parameters.flatMap writtenTypes) +
        if delegation.plan.isFallible then
          1 + delegation.plan.injected.countP (·.plan.isFallible)
        else 0 := by
  by_cases nothing : delegation.plan.injected = []
  · have safe : delegation.plan.isFallible = false := by rw [WrapperPlan.isFallible, nothing]; rfl
    rw [wrapperBody_of_nil nothing, questions_delegateCode, flatMap_writtenTypes_of_nil nothing,
      safe]
    rfl
  · obtain ⟨statements, binds, body⟩ := exists_scopedBody nothing
    rw [body, questions_scopedBody binds]
    cases fallible : delegation.plan.isFallible with
    | true =>
      rw [scopeUse_of_isFallible fallible, ScopeForm.ofUse, if_pos rfl, if_pos rfl]
    | false =>
      have none_fails : delegation.plan.injected.countP (·.plan.isFallible) = 0 := by
        rw [List.countP_eq_zero]
        intro injected mem
        simp [isFallible_eq_false_iff.mp fallible injected mem]
      rw [scopeUse_of_infallible fallible nothing, none_fails]
      rfl

theorem carriesErrors_iff {head : MethodHead} :
    CarriesErrors head ↔ returnsResult head.output = true := by
  rw [CarriesErrors, returnsResult_iff]

instance (head : MethodHead) : Decidable (CarriesErrors head) :=
  decidable_of_iff _ carriesErrors_iff.symm

/-- Whatever is planned for a wrapper is emitted, if its return can carry the errors. -/
theorem asksWhereCarried {delegation : Delegation}
    (carried : delegation.plan.isFallible = true → CarriesErrors delegation.wrapper) :
    AsksWhereCarried delegation where
  carried := carried
  required fallible := by
    have required := scopeUse_of_isFallible fallible
    have some : delegation.plan.injected ≠ [] := by
      intro nothing
      rw [scopeUse_eq_none_iff.mpr nothing] at required
      cases required
    have uses := usesScope_wrapperBody some
    rwa [required] at uses
  properties safe injected mem := by
    have never := isFallible_eq_false_iff.mp safe injected mem
    cases plan : injected.plan with
    | messageProperty name typeName => exact ⟨name, typeName, rfl⟩
    | transport | keyedService | defaultService =>
      rw [plan] at never
      cases never
  available safe some := by
    have uses := usesScope_wrapperBody some
    rwa [scopeUse_of_infallible safe some] at uses
  direct := wrapperBody_of_nil
  marks := marks_wrapperBody delegation

section Methods

variable {method : MethodItem} {parameters : List (Name × WrapperParameter Ty)}

theorem partition_of_supplied {inputs : List TypedInput}
    (supplied : List.Forall₂ Supplies inputs parameters) :
    partition (inputs.map analyzeInjection) = ([], parameters) := by
  induction supplied with
  | nil => rfl
  | @cons input parameter inputs parameters supplies _ ih =>
    have result : analyzeInjection input = .ok parameter := analyzeInjection_eq_iff.mpr supplies
    have faults := congrArg Prod.fst ih
    have kept := congrArg Prod.snd ih
    simp only [partition] at faults kept
    simp only [partition, List.map_cons, result, List.filterMap_cons, faults, kept]

/-- Where the parameters of a method are in order, only its return can keep it from being
delegated. -/
theorem IsProvided.analyzeMethod_eq (provided : IsProvided method parameters) :
    analyzeMethod method =
      if (plannedWrapper method parameters).isFallible = true ∧ ¬ CarriesErrors method.head then
        .error [infallibleFault method.head]
      else
        .ok ⟨method.head.name, plannedWrapper method parameters, wrapperHead method.head parameters,
          method.attributes.filter fun attr =>
            forwardedMarkers.any fun marker => attr.isMarker marker⟩ := by
  have receiver : receiverFaults method.head = [] := by
    rw [receiverFaults_eq, if_pos provided.receiver]
  simp only [analyzeMethod, partition_of_supplied provided.supplied, receiver, carriesErrors_iff,
    Bool.not_eq_true, ← Bool.not_eq_true', ← Bool.and_eq_true]
  rfl

/-- A method that is delegated has its parameters in order. -/
theorem isProvided_of_analyzeMethod {delegation : Delegation}
    (accepted : analyzeMethod method = .ok delegation) :
    ∃ parameters, IsProvided method parameters ∧
      delegation.plan = plannedWrapper method parameters ∧
      delegation.wrapper.output = method.head.output := by
  obtain ⟨shared, parameters, supplied, rfl⟩ := analyzeMethod_ok accepted
  exact ⟨parameters, ⟨shared, supplied⟩, rfl, rfl⟩

/-- The wrapper of a method that is delegated asks only where its return can carry the error. -/
theorem asksWhereCarried_of_analyzeMethod {delegation : Delegation}
    (accepted : analyzeMethod method = .ok delegation) : AsksWhereCarried delegation := by
  obtain ⟨parameters, provided, planned, output⟩ := isProvided_of_analyzeMethod accepted
  refine asksWhereCarried fun fallible => ?_
  rw [planned] at fallible
  by_contra silent
  rw [CarriesErrors, output] at silent
  rw [provided.analyzeMethod_eq, if_pos ⟨fallible, silent⟩] at accepted
  cases accepted

end Methods

/-- The operations of a block are delegations of its marked methods. -/
theorem exists_method_of_mem {block : ImplBlock} {delegation : Delegation}
    (mem : delegation ∈ (analyzeImpl block).operations) :
    ∃ method ∈ block.methods, IsOperation method ∧ analyzeMethod method = .ok delegation := by
  cases inherent : block.traitPart with
  | some lexemes =>
    rw [analyzeImpl, inherent] at mem
    cases mem
  | none =>
    rw [analyzeImpl_eq_flatMap inherent] at mem
    obtain ⟨method, listed, added⟩ := List.mem_flatMap.mp mem
    obtain ⟨among, marked⟩ := List.mem_filter.mp listed
    refine ⟨method, among, of_decide_eq_true marked, ?_⟩
    rw [methodContribution] at added
    cases result : analyzeMethod method with
    | error faults =>
      rw [result] at added
      cases added
    | ok found =>
      rw [result] at added
      rw [List.mem_singleton.mp added]

/-- In every block, bindings can fail only where the return of their method carries the errors. -/
theorem analyzeImpl_keepsErrorsCarried (block : ImplBlock) : KeepsErrorsCarried block where
  accepted delegation mem := by
    obtain ⟨method, listed, marked, accepted⟩ := exists_method_of_mem mem
    obtain ⟨parameters, -, -, output⟩ := isProvided_of_analyzeMethod accepted
    have asks := asksWhereCarried_of_analyzeMethod accepted
    exact ⟨method, listed, marked, accepted, output, asks⟩
  delegated provided carried := by
    rw [provided.analyzeMethod_eq, if_neg fun ⟨fallible, silent⟩ => silent (carried fallible)]
    exact ⟨_, rfl, rfl⟩
  refused {before method after parameters} inherent listed marked provided fallible silent := by
    have refused : analyzeMethod method = .error [infallibleFault method.head] := by
      rw [provided.analyzeMethod_eq, if_pos ⟨fallible, silent⟩]
    have added : implContribution (.method method) = methodContribution method := if_pos marked
    refine ⟨rfl, refused, ?_⟩
    rw [analyzeImpl, inherent, listed]
    dsimp only
    rw [Contribution.ofItems_middle, added, methodContribution, refused]
    rfl

open Booking in
/-- A method without a return may have a message property injected, which is read without asking. -/
example : (analyzeMethod { book with head := { head [tenant] with output := none } }).toOption.map
      (fun delegation => questions (wrapperBody delegation)) = some 0 := by
  decide +kernel

end ServiceDispatch.Generate
