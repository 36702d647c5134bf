import ServiceDispatch.Proofs.Generate.WrapperBody
import ServiceDispatch.Proofs.Generate.Wrapping
import ServiceDispatch.Sample.Content

/-!
# What generated wrappers do

From a method that analysis delegates to every call of the wrapper that is generated for it: the
parameters are those that the method declares, the code that is emitted has a body that runs as the
wrapper of the plan, and that wrapper resolves, fails and releases in one fixed way. What types
mean, how a failure becomes an error of the operation and what the method itself does are left open.
-/

namespace ServiceDispatch

open Source

variable {σ : Type}

/-- The identifier that a pattern binds, if it is one. -/
def Source.Pattern.bound? : Pattern → Option String
  | name _ ident => some ident.text
  | other _ => none

/-- The identifiers of the parameters other than the object. -/
def Source.MethodHead.variables (head : MethodHead) : List String :=
  head.typedInputs.filterMap (·.pattern.bound?)

namespace Generate

open Code

/-- The wrapper that a delegation plans, given what types mean, how the error of an operation is
made of a failure, and the method. -/
def Delegation.serving (delegation : Delegation) (meaning : Ty → TargetType)
    (convert : Failure → OperationError) (implementation : Implementation σ) : Wrapper σ :=
  ⟨delegation.plan.map meaning, convert, implementation⟩

/-- What is generated for a method does with every call what a wrapper has to. -/
structure IsDelegated (method : MethodItem) (delegation : Delegation) (meaning : Ty → TargetType)
    (wrapper : Wrapper σ) : Prop where
  /-- The parameters are those declared, in declared order: supplied by the caller, or bound as
  their markers ask for. -/
  parameters : ∃ parameters, List.Forall₂ Supplies method.head.typedInputs parameters ∧
    delegation.plan = ⟨parameters.map Prod.snd, method.head.isAsync⟩ ∧
    wrapper.plan = delegation.plan.map meaning
  /-- The code that is emitted is a signature with a body that the plan asks for. If no two
  parameters have one name, and none has that of the scope, the body does what the wrapper does,
  whatever it is called with. -/
  emitted : ∃ body : WrapperBody, body.Follows delegation.plan ∧
    wrapperCode delegation =
      Lexeme.tokens (delegation.attributes.flatMap Attribute.lexemes) ++
        Lexeme.tokens delegation.wrapper.lexemes ++ braces (body.code method.head.name) ∧
    (("__opbind_scope" :: method.head.variables).Nodup → ∀ services state object passed,
      passed.length = delegation.wrapper.variables.length →
      (body.run meaning wrapper.convert wrapper.implementation delegation.wrapper.variables object
          passed).run services state =
        (wrapper.method object passed).run services state)
  /-- With a value for every parameter that the signature shows, the wrapper resolves what is
  injected, calls the method and releases the session of the call, or fails, in one fixed way. -/
  delegates : ∀ services state object passed,
    passed.length = delegation.wrapper.variables.length →
    wrapper.Delegates services state object passed

section Parameters

variable {inputs : List TypedInput} {parameters : List (Name × WrapperParameter Ty)}

/-- The parameters of a delegation are named as they are declared. -/
theorem filterMap_variable (supplied : List.Forall₂ Supplies inputs parameters) :
    inputs.filterMap (·.pattern.bound?) = (parameters.map Prod.snd).map (·.name) := by
  induction supplied with
  | nil => rfl
  | @cons input parameter inputs parameters supplies _ ih =>
    obtain ⟨mutable, name, pattern, named⟩ := supplies.cases
    have bound : input.pattern.bound? = some name.text := by rw [pattern]; rfl
    simp only [List.filterMap_cons, bound, ih]
    obtain ⟨-, rfl⟩ | ⟨-, binding, rfl⟩ := named <;> rfl

/-- The signature of a wrapper shows the object and the parameters that the caller supplies. -/
theorem typedInputs_wrapperHead (head : MethodHead)
    (parameters : List (Name × WrapperParameter Ty)) :
    (wrapperHead head parameters).typedInputs =
      (parameters.filter (·.2.isContract)).map fun parameter =>
        ⟨[], .name false parameter.1, parameter.2.type⟩ := by
  have object : ∀ inputs : List Input, (head.withInputs
      (inputs.filter Grammar.isReceiver)).typedInputs = [] := by
    intro inputs
    refine List.filterMap_eq_nil_iff.mpr fun input mem => ?_
    cases input with
    | receiver => rfl
    | typed => exact absurd (List.mem_filter.mp mem).2 Bool.false_ne_true
  refine (List.filterMap_append ..).trans ?_
  refine congrArg₂ (· ++ ·) (object head.inputs) ?_
  rw [List.filterMap_map, ← List.filterMap_eq_map]
  rfl

/-- It names them as they are declared. -/
theorem variables_wrapperHead (head : MethodHead)
    (supplied : List.Forall₂ Supplies inputs parameters) :
    (wrapperHead head parameters).variables =
      WrapperBody.visibleNames (parameters.map Prod.snd) := by
  rw [MethodHead.variables, typedInputs_wrapperHead, WrapperBody.visibleNames]
  induction supplied with
  | nil => rfl
  | @cons input parameter inputs parameters supplies _ ih =>
    obtain ⟨mutable, name, -, ⟨-, rfl⟩ | ⟨-, binding, rfl⟩⟩ := supplies.cases
    · exact congrArg (name.text :: ·) ih
    · exact ih

end Parameters

/-- Whatever analysis delegates, what is generated for it does with every call what a wrapper has
to. -/
theorem analyzeMethod_delegates {method : MethodItem} {delegation : Delegation}
    (accepted : analyzeMethod method = .ok delegation) (meaning : Ty → TargetType)
    (convert : Failure → OperationError) (implementation : Implementation σ) :
    IsDelegated method delegation meaning (delegation.serving meaning convert implementation) := by
  obtain ⟨-, parameters, supplied, rfl⟩ := analyzeMethod_ok accepted
  set delegation : Delegation := ⟨method.head.name, ⟨parameters.map Prod.snd, method.head.isAsync⟩,
    wrapperHead method.head parameters, _⟩
  have declared : method.head.variables = delegation.plan.parameters.map (·.name) :=
    filterMap_variable supplied
  have visible : delegation.wrapper.variables =
      WrapperBody.visibleNames delegation.plan.parameters :=
    variables_wrapperHead method.head supplied
  obtain ⟨body, follows, emitted⟩ := WrapperBody.exists_follows delegation
  refine
    { parameters := ⟨parameters, supplied, rfl, rfl⟩
      emitted := ⟨body, follows, ?_, fun distinct services state object passed passes => ?_⟩
      delegates := fun services state object passed passes => Wrapper.method_delegates ?_ }
  · rw [wrapperCode, emitted]
  · rw [declared, List.nodup_cons] at distinct
    rw [visible] at passes ⊢
    exact WrapperBody.run_follows services follows rfl distinct.2 object passes state
  · rw [passes, visible, WrapperBody.visibleNames, List.length_map, ← List.countP_eq_length_filter]
    exact (WrapperPlan.countP_isContract_map meaning delegation.plan).symm

namespace Booking

open Sample

/-- What the types of the method mean. -/
def meaning : Ty → TargetType
  | .named _ ⟨"String", _⟩ _ => .value .string
  | .named _ ⟨"u64", _⟩ _ => .value .u64
  | .named _ name _ => .object name.text
  | _ => .object ""

/-- Accepts an amount that the clock has passed, with a note that names the tenant. -/
def accept : Implementation Content
  | _, [.service clock, .passed (.u64 amount), .optionalProperty (some (.string tenant)),
      .passed (.string note)] => do
    let content ← contentOf clock
    pure (.value (.bool (amount < content.now && note == "for " ++ tenant)))
  | _, _ => misfit

/-- A clock is registered. -/
def clocks : Services Content :=
  Services.empty.add ⟨"Clock", none⟩ .transient (.factory (.build "Clock" (.clock 50)))

/-- A message for a tenant, on an instance that serves all calls. -/
def call : OperationContext where
  hosting := ⟨.single, .root, .ofType "dyn Bookings" ⟨0⟩⟩
  ownsHosting := false
  properties := Properties.empty.insert "tenant" (.value (.string "acme"))
  action := "Book"
  session := none

/-- What the method has injected. -/
def bindings : List (Injected TargetType) :=
  [⟨.defaultService, .object "Clock", false⟩,
    ⟨.messageProperty "tenant" "String", .value .string, true⟩]

/-- The call is being served. -/
def served : ServiceState Content := { ServiceState.initial .empty with current := some call }

end Booking

open Booking Wrapper in
theorem analyzeMethod_delegates_book :
    ∃ delegation, analyzeMethod book = .ok delegation ∧
      IsDelegated book delegation meaning (delegation.serving meaning .own accept) ∧
      ("__opbind_scope" :: book.head.variables).Nodup ∧
      delegation.wrapper.variables = ["amount", "note"] ∧
      ((delegation.serving meaning .own accept).Delegates clocks served ⟨0⟩
          [.u64 42, .string "for acme"] ∧
        ∃ after, Answered clocks call (sessionOf call served)
          (begun call (delegation.serving meaning .own accept).plan.injected served).container
          (delegation.serving meaning .own accept).plan.injected
          [.service ⟨0⟩, .optionalProperty (some (.string "acme"))] after) := by
  have accepted : ∃ delegation, analyzeMethod book = .ok delegation ∧
      delegation.wrapper.variables = ["amount", "note"] ∧
      (delegation.serving meaning .own accept).plan.injected = bindings := ⟨_, rfl, rfl, by decide +kernel⟩
  obtain ⟨delegation, accepted, shown, injected⟩ := accepted
  have delegated := analyzeMethod_delegates accepted meaning .own accept
  have answered : Answered clocks call (sessionOf call served)
      (begun call bindings served).container bindings
      [.service ⟨0⟩, .optionalProperty (some (.string "acme"))] _ :=
    .cons (.service rfl rfl rfl) (.cons (.optionalProperty (.value rfl)) (.nil _))
  rw [← injected] at answered
  exact ⟨delegation, accepted, delegated, by decide, shown,
    delegated.delegates clocks served ⟨0⟩ _ (by rw [shown]; rfl), _, answered⟩

open Booking in
/-- The method gets the clock from the session of the call and the tenant from the message, between
the values of the caller. The session has been released. -/
example :
    (analyzeMethod book).toOption.map (fun delegation =>
      let ended := ((delegation.serving meaning .own accept).method ⟨0⟩
        [.u64 42, .string "for acme"]).run clocks served
      (ended.1.toOption, ended.2.container.openness)) =
    some (some (.value (.bool true)), [false]) := by
  decide +kernel

end Generate

end ServiceDispatch
