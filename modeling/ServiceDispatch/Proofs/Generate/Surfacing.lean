import ServiceDispatch.Proofs.Call.Surfacing
import ServiceDispatch.Proofs.Generate.Adapter
import ServiceDispatch.Proofs.Generate.Fallibility

/-!
# Errors of generated operations

The adapter that is generated for an operation surfaces errors exactly if the declared return is
spelled as a `Result`; from there on errors go their way to the caller of the outermost call. A
return that stands for a `Result` under another name is a value like any other: an error in it is
handed on inside that value, and no call fails by it.
-/

namespace ServiceDispatch

namespace Generate

open Source

variable {σ : Type} {declaringType : String} {head : MethodHead} {operation : ContractOperation}

/-- Whether errors of an operation surface is told by how its return is spelled: to its adapter, and
in the body that is emitted for it. -/
structure ContractOperation.SurfacesBySpelling (operation : ContractOperation) (head : MethodHead)
    (meaning : Ty → ValueType) (adapter : Adapter σ) : Prop where
  /-- The adapter surfaces errors if and only if the return is spelled as a `Result`. -/
  surfaces : adapter.plan.surfaces = true ↔ CarriesErrors head
  /-- What is emitted for it is a straight-line program that does so as well, and does what the
  adapter does. -/
  emitted : ∃ body : AdapterBody,
    invokeCode operation.name operation.adapterPlan = body.code operation.name ∧
      (body.surfaces = true ↔ CarriesErrors head) ∧
      ∀ object inputs services state,
        (body.run meaning adapter.method object inputs).run services state =
          (adapter.invoke (.ofType adapter.contract object) inputs).run services state

/-- The adapter of an operation surfaces errors just if the return can carry them. -/
theorem surfaces_adapterPlan_iff (parameters : List ContractParameter) :
    (operationOf declaringType head parameters).adapterPlan.surfaces = true ↔
      CarriesErrors head := by
  have agree := (output_isReadAlike head.output).agree
  rw [carriesErrors_iff, agree]
  rfl

/-- Whatever operation analysis accepts, its return tells whether its errors surface. -/
theorem surfacesBySpelling_of_analyzeOperation
    (accepted : analyzeOperation declaringType head = .ok operation) (meaning : Ty → ValueType)
    (contract : String) (method : Method σ) :
    operation.SurfacesBySpelling head meaning (operation.adapter meaning contract method) := by
  obtain ⟨parameters, -, rfl⟩ := analyzeOperation_ok accepted
  have surfaces := @surfaces_adapterPlan_iff declaringType head parameters
  exact ⟨surfaces, .ofPlan _, AdapterBody.invokeCode_eq_code _ _, surfaces,
    AdapterBody.run_ofPlan _ meaning rfl⟩

end Generate

open Generate Source

variable {σ : Type}

/-- How errors of operations reach the caller of a dispatched call. -/
structure SurfacesErrors (services : Services σ) : Prop where
  /-- An operation surfaces its errors if and only if its return is spelled as a `Result`. -/
  spelled : ∀ {declaringType head operation},
    analyzeOperation declaringType head = .ok operation →
    ∀ (meaning : Ty → ValueType) (contract : String) (method : Method σ),
      operation.SurfacesBySpelling head meaning (operation.adapter meaning contract method)
  /-- A call of such an operation fails by whatever error the method ends with. -/
  raised : ∀ {declaringType head operation},
    analyzeOperation declaringType head = .ok operation → CarriesErrors head →
    ∀ {meaning contract} {method : Method σ} {call : Call σ} {passed error state},
      call.Arrives (operation.adapter meaning contract method) passed →
      ((method call.served.object passed).run services (state.callStarted call.context)).1 =
        .error error →
      call.Raises services error 0 state
  /-- An error of the library arrives as it is. -/
  own : ∀ {call : Call σ} {failure depth state}, call.Raises services (.own failure) depth state →
    (call.dispatch.run services state).1 = .error failure
  /-- A foreign error arrives within one layer. -/
  foreign : ∀ {call : Call σ} {source depth state},
    call.Raises services (.foreign source) depth state →
    (call.dispatch.run services state).1 = .error (.operation source)
  /-- It can be recovered from there by its own type, and as none of another one. -/
  recovered : ∀ (source : ForeignError) (kind : String),
    (Failure.operation source).recover kind = if source.kind = kind then some source else none
  /-- The failure of a binding is an error of the wrapper's operation, and of the library if that is
  what the operation fails with. -/
  binding : ∀ {call : Call σ} {adapter : Adapter σ} {passed state} {wrapper : Wrapper σ}
    {reached later failure after}, call.Reaches adapter passed → adapter.method = wrapper.method →
    wrapper.convert = .own → wrapper.plan.injected = reached ++ later →
    Wrapper.Refused services call.context
      (Wrapper.sessionOf call.context (state.callStarted call.context))
      (Wrapper.begun call.context reached (state.callStarted call.context)).container reached
      failure after →
    call.Raises services (.own failure) 0 state
  /-- An operation that returns the failure of a call adds nothing to it, be it a failure of an
  operation or of dispatching. -/
  level : ∀ {call inner : Call σ} {adapter : Adapter σ} {passed state middle failure},
    call.Reaches adapter passed →
    HandsOn services (call.operation adapter passed) (state.callStarted call.context) inner
      middle →
    (inner.dispatch.run services middle).1 = .error failure →
    (call.dispatch.run services state).1 = .error failure
  /-- Surfacing what has surfaced leaves it as it is. -/
  again : ∀ error : OperationError,
    Failure.surface (.own (Failure.surface error)) = Failure.surface error
  /-- Where errors do not surface, one that is met is part of the value that is answered. -/
  unsurfaced : ∀ {call : Call σ} {adapter : Adapter σ} {passed error state},
    call.Arrives adapter passed → adapter.plan.surfaces = false →
    ((call.operation adapter passed).run services (state.callStarted call.context)).1 =
      .error error →
    (call.dispatch.run services state).1 = .ok (adapter.plan.outcome passed (.failed error))

/-- Whatever services there are, errors that surface reach the caller unchanged. -/
theorem errors_surface (services : Services σ) : SurfacesErrors services where
  spelled accepted meaning contract method :=
    surfacesBySpelling_of_analyzeOperation accepted meaning contract method
  raised accepted carries meaning contract method _ _ _ _ arrives fails := by
    have surfaces := (surfacesBySpelling_of_analyzeOperation accepted meaning contract
      method).surfaces.mpr carries
    exact .own ⟨arrives, surfaces⟩ fails
  own raises := raises.dispatch_eq
  foreign raises := raises.dispatch_eq
  recovered := Failure.recover_surface_foreign
  binding {_ _ _ _ wrapper _ _ failure _} reaches wrapped own split refused := by
    have raises := reaches.raises_of_refused wrapped split refused
    rwa [own] at raises
  level reaches handsOn fails := reaches.dispatch_of_handsOn handsOn fails
  again := Failure.surface_own_surface
  unsurfaced arrives unsurfaced fails := arrives.dispatch_of_unsurfaced unsurfaced fails

end ServiceDispatch
