import ServiceDispatch.Proofs.Generate.Injections
import ServiceDispatch.Proofs.Generate.ScopeReading
import ServiceDispatch.Proofs.Source.Receivers

/-!
# Wrappers of methods

The wrapper of a method has the signature of the method without the injected parameters. It binds
each of these once and calls the method with all parameters in declared order. Whether the bindings
can be resolved when the wrapper runs is not the subject here, nor what types mean: a parameter
matches one of a contract if their types are written alike.
-/

namespace ServiceDispatch.Source

/-- A parameter as a contract fixes it: without its identifier, its attributes and its places. -/
inductive Slot where
  /-- How the object is taken. -/
  | receiver (code : List Token)
  /-- The type of any other parameter. -/
  | value (type : List Token)
  deriving DecidableEq

/-- What a contract fixes of a parameter. -/
def Input.slot : Input → Slot
  | .receiver object => .receiver (Lexeme.tokens object.written)
  | .typed input => .value input.type.tokens

/-- A method as a contract fixes it. -/
structure Interface where
  /-- Words before its name. -/
  qualifiers : List Token
  /-- Its name. -/
  name : String
  /-- Its generic parameters. -/
  generics : List Token
  /-- Its parameters in declared order. -/
  slots : List Slot
  /-- Further parameters of any number. -/
  variadic : List Token
  /-- Its declared return. -/
  output : Option (List Token)
  /-- Its conditions. -/
  conditions : List Token
  deriving DecidableEq

namespace MethodHead

/-- What a contract fixes of a method. -/
def interface (head : MethodHead) : Interface where
  qualifiers := Lexeme.tokens head.qualifiers
  name := head.name.text
  generics := Lexeme.tokens head.generics.lexemes
  slots := head.inputs.map Input.slot
  variadic := Lexeme.tokens head.variadic
  output := head.output.map Ty.tokens
  conditions := Lexeme.tokens head.conditions

/-- A method matches one of a contract. -/
def Matches (head contract : MethodHead) : Prop := head.interface = contract.interface

end MethodHead

end ServiceDispatch.Source

namespace ServiceDispatch.Generate

open Source Code

/-- A parameter other than the object is injected. -/
def IsInjectedInput : Input → Prop
  | .receiver _ => False
  | .typed input => IsInjected input

/-- The second parameters are the first ones, perhaps with other identifiers and attributes, with
injected ones inserted anywhere. -/
inductive InsertsInputs : List Input → List Input → Prop where
  /-- Nothing is inserted into nothing. -/
  | nil : InsertsInputs [] []
  /-- A parameter that is not injected is kept. -/
  | kept {input kept : Input} {inputs others : List Input} (alike : input.slot = kept.slot)
      (visible : ¬ IsInjectedInput kept) (inserts : InsertsInputs inputs others) :
      InsertsInputs (input :: inputs) (kept :: others)
  /-- One that is injected is inserted. -/
  | inserted {input : TypedInput} {inputs others : List Input} (injected : IsInjected input)
      (inserts : InsertsInputs inputs others) : InsertsInputs inputs (.typed input :: others)

/-- A method is another one with injected parameters inserted. -/
structure InsertsInjected (plain head : MethodHead) : Prop where
  /-- Everything but the parameters is left alike. -/
  others : { plain.interface with slots := [] } = { head.interface with slots := [] }
  /-- Injected parameters are inserted anywhere. -/
  inputs : InsertsInputs plain.inputs head.inputs

/-- A parameter of a wrapper shows one of its method: by its identifier and its type alone. -/
inductive Shows (input : TypedInput) : Input → Prop where
  /-- It has neither attributes nor modifiers. -/
  | typed {mutable : Bool} {name : Name} (pattern : input.pattern = .name mutable name) :
      Shows input (.typed ⟨[], .name false name, input.type⟩)

/-- A statement of a wrapper binds an injected parameter: its identifier, with its declared type, to
what its binding is resolved by. -/
inductive BindsVariable {form : ScopeForm} (input : TypedInput) : ScopeStatement form → Prop where
  /-- What it is resolved by follows from the binding of the parameter. -/
  | resolved {mutable : Bool} {name : Name} {injected : Injected Ty}
      {statement : ScopeStatement form} (pattern : input.pattern = .name mutable name)
      (provides : Provides input (.ok (name, ⟨name.text, input.type, .injected injected⟩)))
      (binds : statement.Binds ⟨name.text, input.type, .injected injected⟩) :
      BindsVariable input statement

/-- An argument of a call names a parameter. -/
inductive Passes (input : TypedInput) : Code → Prop where
  /-- By its identifier. -/
  | named {mutable : Bool} {name : Name} (pattern : input.pattern = .name mutable name) :
      Passes input (word name.text)

/-- A call of a method with all its parameters in declared order. -/
inductive CallsMethod (head : MethodHead) : Code → Prop where
  /-- It is awaited if the method is asynchronous. -/
  | call {arguments : List Code} (passes : List.Forall₂ Passes head.typedInputs arguments) :
      CallsMethod head
        (word "Self" ++ mark "::" ++ word head.name.text ++
          parens (word "self" ++ mark "," ++ commas arguments) ++
          (if head.isAsync then mark "." ++ word "await" else []))

/-- The body of a wrapper. -/
inductive WrapsCall (use : ScopeUse) (head : MethodHead) : Code → Prop where
  /-- With nothing to inject it is the call. -/
  | direct {call : Code} (none_injected : ∀ input ∈ head.typedInputs, ¬ IsInjected input)
      (calls : CallsMethod head call) : WrapsCall use head call
  /-- Otherwise it opens a scope, binds each injected parameter in declared order, and calls. -/
  | scoped {input : TypedInput} {call : Code} {statements : List (ScopeStatement (.ofUse use))}
      (mem : input ∈ head.typedInputs) (injected : IsInjected input)
      (binds : List.Forall₂ BindsVariable (head.typedInputs.filter (IsInjected ·)) statements)
      (calls : CallsMethod head call) : WrapsCall use head (scopedBody statements call)

/-- A delegation wraps its method. -/
structure Wraps (method : MethodItem) (delegation : Delegation) : Prop where
  /-- The signature of the wrapper differs from that of the method in its parameters alone: -/
  others : delegation.wrapper = method.head.withInputs delegation.wrapper.inputs
  /-- they are the object, then those that are not injected, in declared order. -/
  inputs : ∃ receiver visible, method.head.inputs.head? = some (.receiver receiver) ∧
    delegation.wrapper.inputs = .receiver receiver :: visible ∧
    List.Forall₂ Shows (method.head.typedInputs.filter (¬ IsInjected ·)) visible
  /-- The wrapper binds each injected parameter and passes all parameters on. -/
  code : ∃ body, WrapsCall delegation.plan.scopeUse method.head body ∧
    wrapperCode delegation =
      Lexeme.tokens (delegation.attributes.flatMap Attribute.lexemes) ++
        Lexeme.tokens delegation.wrapper.lexemes ++ braces body
  /-- Whatever is inserted into a method, the wrapper matches what the method matches. -/
  stillMatches : ∀ {plain contract}, InsertsInjected plain method.head → plain.Matches contract →
    delegation.wrapper.Matches contract

theorem FirstMarker.isInjected {input : TypedInput} {attr : Attribute}
    (first : FirstMarker input attr) : IsInjected input := by
  obtain ⟨earlier, later, listed, -, marked⟩ := first
  exact ⟨attr, by simp [listed], marked⟩

/-- A parameter of a delegation has the identifier and the type of the declared one. -/
theorem Supplies.cases {input : TypedInput} {parameter : Name × WrapperParameter Ty}
    (supplies : Supplies input parameter) :
    ∃ mutable name, input.pattern = .name mutable name ∧
      (¬ IsInjected input ∧ parameter = (name, ⟨name.text, input.type, .caller⟩) ∨
        IsInjected input ∧ ∃ injected,
          parameter = (name, ⟨name.text, input.type, .injected injected⟩)) := by
  cases supplies with
  | caller pattern unmarked => exact ⟨_, _, pattern, .inl ⟨unmarked, rfl⟩⟩
  | injected pattern first read binds =>
    exact ⟨_, _, pattern, .inr ⟨first.isInjected, _, rfl⟩⟩

section Parameters

variable {inputs : List TypedInput} {parameters : List (Name × WrapperParameter Ty)}

theorem forall₂_shows
    (supplied : List.Forall₂ Supplies inputs parameters) :
    List.Forall₂ Shows (inputs.filter (¬ IsInjected ·))
      ((parameters.filter fun parameter => parameter.2.isContract).map wrapperInput) := by
  induction supplied with
  | nil => exact .nil
  | @cons input parameter inputs parameters supplies _ ih =>
    obtain ⟨mutable, name, pattern, ⟨visible, rfl⟩ | ⟨injected, binding, rfl⟩⟩ := supplies.cases
    · rw [List.filter_cons_of_pos (by simpa using visible), List.filter_cons_of_pos rfl]
      exact .cons (.typed pattern) ih
    · rw [List.filter_cons_of_neg (by simpa using injected),
        List.filter_cons_of_neg Bool.false_ne_true]
      exact ih

theorem forall₂_bindsVariable {form : ScopeForm} {statements : List (ScopeStatement form)}
    (supplied : List.Forall₂ Supplies inputs parameters)
    (binds : List.Forall₂ ScopeStatement.Binds statements
      ((parameters.map Prod.snd).filter (! ·.isContract))) :
    List.Forall₂ BindsVariable (inputs.filter (IsInjected ·)) statements := by
  induction supplied generalizing statements with
  | nil =>
    cases binds
    exact .nil
  | @cons input parameter inputs parameters supplies _ ih =>
    obtain ⟨mutable, name, pattern, ⟨visible, rfl⟩ | ⟨injected, binding, rfl⟩⟩ := supplies.cases
    · rw [List.filter_cons_of_neg (by simpa using visible)]
      exact ih binds
    · rw [List.filter_cons_of_pos (by simpa using injected)]
      cases binds with
      | cons first others => exact .cons (.resolved pattern supplies first) (ih others)

theorem forall₂_passes
    (supplied : List.Forall₂ Supplies inputs parameters) :
    List.Forall₂ Passes inputs
      ((parameters.map Prod.snd).map fun parameter => word parameter.name) := by
  rw [List.map_map, List.forall₂_map_right_iff]
  refine supplied.imp fun input parameter supplies => ?_
  obtain ⟨mutable, name, pattern, ⟨-, rfl⟩ | ⟨-, binding, rfl⟩⟩ := supplies.cases
  · exact .named pattern
  · exact .named pattern

theorem injected_eq_nil_iff {awaits : Bool}
    (supplied : List.Forall₂ Supplies inputs parameters) :
    (⟨parameters.map Prod.snd, awaits⟩ : WrapperPlan Ty).injected = [] ↔
      ∀ input ∈ inputs, ¬ IsInjected input := by
  change (parameters.map Prod.snd).filterMap WrapperParameter.injected? = [] ↔ _
  induction supplied with
  | nil => simp
  | @cons input parameter inputs parameters supplies _ ih =>
    obtain ⟨mutable, name, pattern, ⟨visible, rfl⟩ | ⟨injected, binding, rfl⟩⟩ := supplies.cases
    · rw [List.map_cons, List.filterMap_cons_none rfl, ih, List.forall_mem_cons]
      exact (and_iff_right visible).symm
    · have bound : WrapperParameter.injected? ⟨name.text, input.type, .injected binding⟩ =
          some binding := rfl
      rw [List.map_cons, List.filterMap_cons_some bound, List.forall_mem_cons]
      exact iff_of_false (List.cons_ne_nil _ _) fun visible => visible.1 injected

end Parameters

/-- What is generated for the body of a delegation's wrapper. -/
theorem wrapsCall_wrapperBody {method : MethodItem} {delegation : Delegation}
    {parameters : List (Name × WrapperParameter Ty)}
    (supplied : List.Forall₂ Supplies method.head.typedInputs parameters)
    (named : delegation.name = method.head.name)
    (planned : delegation.plan = ⟨parameters.map Prod.snd, method.head.isAsync⟩) :
    WrapsCall delegation.plan.scopeUse method.head (wrapperBody delegation) := by
  have calls : CallsMethod method.head (delegateCode delegation) := by
    have call := CallsMethod.call (forall₂_passes supplied)
    rw [delegateCode, planned, named]
    exact call
  have visible : delegation.plan.injected = [] ↔
      ∀ input ∈ method.head.typedInputs, ¬ IsInjected input := by
    rw [planned, injected_eq_nil_iff supplied]
  by_cases nothing : delegation.plan.injected = []
  · rw [wrapperBody_of_nil nothing]
    exact .direct (visible.mp nothing) calls
  · obtain ⟨input, mem, injected⟩ : ∃ input ∈ method.head.typedInputs, IsInjected input := by
      simpa using mt visible.mpr nothing
    obtain ⟨statements, binds, body⟩ := exists_scopedBody nothing
    rw [congrArg WrapperPlan.parameters planned] at binds
    rw [body]
    exact .scoped mem injected (forall₂_bindsVariable supplied binds) calls

theorem interface_withInputs (head : MethodHead) (inputs : List Input) :
    (head.withInputs inputs).interface =
      { head.interface with slots := inputs.map Input.slot } := rfl

/-- A shown parameter has the type of the declared one. -/
theorem map_slot_of_shows {inputs : List TypedInput} {visible : List Input}
    (shows : List.Forall₂ Shows inputs visible) :
    visible.map Input.slot = inputs.map fun input => .value input.type.tokens := by
  induction shows with
  | nil => rfl
  | cons shows _ ih =>
    cases shows with
    | typed pattern => rw [List.map_cons, List.map_cons, ih]; rfl

/-- What remains without the inserted parameters. -/
theorem map_slot_of_inserts (head : MethodHead) {inputs others : List Input}
    (inserts : InsertsInputs inputs others)
    (typed : ∀ input ∈ others, Grammar.isReceiver input = false) :
    inputs.map Input.slot =
      ((head.withInputs others).typedInputs.filter (¬ IsInjected ·)).map fun input =>
        .value input.type.tokens := by
  induction inserts with
  | nil => rfl
  | @kept input kept inputs others alike visible _ ih =>
    obtain ⟨first, rest⟩ := List.forall_mem_cons.mp typed
    cases kept with
    | receiver object => cases first
    | typed kept =>
      have listed : (head.withInputs (.typed kept :: others)).typedInputs =
          kept :: (head.withInputs others).typedInputs := rfl
      have shown : ¬ IsInjected kept := visible
      rw [List.map_cons, ih rest, alike, listed, List.filter_cons_of_pos (by simpa using shown)]
      rfl
  | @inserted input inputs others injected _ ih =>
    obtain ⟨-, rest⟩ := List.forall_mem_cons.mp typed
    have listed : (head.withInputs (.typed input :: others)).typedInputs =
        input :: (head.withInputs others).typedInputs := rfl
    rw [ih rest, listed, List.filter_cons_of_neg (by simpa using injected)]

/-- A regular method on `&self` has the object before all other parameters. -/
theorem exists_receiver {head : MethodHead} (regular : head.IsRegular) (shared : TakesShared head) :
    ∃ receiver rest, head.inputs = .receiver receiver :: rest ∧
      (∀ input ∈ rest, Grammar.isReceiver input = false) ∧
      head.inputs.filter Grammar.isReceiver = [.receiver receiver] := by
  obtain ⟨receiver, rest, listed, -⟩ := shared
  have typed : ∀ input ∈ rest, Grammar.isReceiver input = false := by
    simpa [MethodHead.IsRegular, listed] using regular
  refine ⟨receiver, rest, listed, typed, ?_⟩
  rw [listed, List.filter_cons_of_pos rfl, List.filter_eq_nil_iff.mpr (by simpa using typed)]

/-- A signature that differs from a method in its parameters, which are the object and those that
are not injected, matches whatever the method without the injected ones matches. -/
theorem matches_of_inserts {plain head contract : MethodHead} {receiver : Receiver}
    {rest visible : List Input} (listed : head.inputs = .receiver receiver :: rest)
    (typed : ∀ input ∈ rest, Grammar.isReceiver input = false)
    (shows : List.Forall₂ Shows (head.typedInputs.filter (¬ IsInjected ·)) visible)
    (inserts : InsertsInjected plain head) (fits : plain.Matches contract) :
    (head.withInputs (.receiver receiver :: visible)).Matches contract := by
  have others : head.typedInputs = (head.withInputs rest).typedInputs := by
    rw [MethodHead.typedInputs, listed]
    rfl
  have slots : plain.inputs.map Input.slot =
      (Input.receiver receiver :: visible).map Input.slot := by
    have inputs := inserts.inputs
    rw [listed] at inputs
    generalize plain.inputs = first at inputs ⊢
    cases inputs with
    | kept alike visible inserted =>
      rw [List.map_cons, List.map_cons, alike, map_slot_of_inserts head inserted typed,
        map_slot_of_shows shows, others]
  have same := congrArg (fun fixed : Interface =>
    { fixed with slots := plain.inputs.map Input.slot }) inserts.others
  rw [MethodHead.Matches, interface_withInputs, ← slots, ← fits]
  exact same.symm

/-- Whatever analysis delegates is wrapped. -/
theorem analyzeMethod_wraps {method : MethodItem} {delegation : Delegation}
    (regular : method.head.IsRegular) (accepted : analyzeMethod method = .ok delegation) :
    Wraps method delegation := by
  obtain ⟨shared, parameters, supplied, rfl⟩ := analyzeMethod_ok accepted
  obtain ⟨receiver, rest, listed, typed, only⟩ := exists_receiver regular shared
  have shows := forall₂_shows supplied
  have wrapper : wrapperHead method.head parameters = method.head.withInputs
      (.receiver receiver ::
        (parameters.filter fun parameter => parameter.2.isContract).map wrapperInput) := by
    rw [wrapperHead, only]
    rfl
  exact
    { others := rfl
      inputs := ⟨receiver, _, by rw [listed]; rfl, congrArg MethodHead.inputs wrapper, shows⟩
      code := ⟨_, wrapsCall_wrapperBody supplied rfl rfl, rfl⟩
      stillMatches := fun inserts fits => by
        rw [wrapper]
        exact matches_of_inserts listed typed shows inserts fits }

namespace Booking

open Tenancy (name assigned inject)
open Recording (named)

/-- A parameter by its attributes, whether it is marked `mut`, its name and its type. -/
def parameter (attributes : List Attribute) (mutable : Bool) (text : String) (type : Ty) : Input :=
  .typed ⟨attributes, .name mutable (name text), type⟩

/-- `async fn book(&self, ..) -> Result<bool, Fault>` with parameters. -/
def head (parameters : List Input) : MethodHead where
  qualifiers := [⟨.word "async", .nowhere⟩, ⟨.word "fn", .nowhere⟩]
  name := name "book"
  generics := .absent
  inputsSpan := .nowhere
  inputs :=
    .receiver ⟨[], true, false, false, [⟨.mark '&' false, .nowhere⟩, ⟨.word "self", .nowhere⟩]⟩ ::
      parameters
  trailing := false
  variadic := []
  arrow := .nowhere
  output := some (applied "Result" [named "bool", named "Fault"])
  conditions := []

/-- `#[inject] clock: Arc<Clock>` -/
def clock : Input := parameter [inject []] false "clock" (applied "Arc" [named "Clock"])

/-- `mut amount: u64` -/
def amount : Input := parameter [] true "amount" (named "u64")

/-- `#[inject(property = "tenant")] tenant: Option<String>` -/
def tenant : Input :=
  parameter [inject (assigned "property" "\"tenant\"")] false "tenant"
    (applied "Option" [named "String"])

/-- `#[allow] note: String` -/
def note : Input :=
  parameter [⟨false, ⟨none, [name "allow"]⟩, .absent, .nowhere⟩] false "note" (named "String")

/-- `#[operation] async fn book(&self, clock, amount, tenant, note)` -/
def book : MethodItem where
  attributes := [⟨false, ⟨none, [name operationMarker]⟩, .absent, .nowhere⟩]
  modifiers := []
  head := head [clock, amount, tenant, note]
  body := some ([], .nowhere)

/-- `async fn book(&self, sum: u64, text: String)` -/
def contract : MethodHead :=
  head [parameter [] false "sum" (named "u64"), parameter [] false "text" (named "String")]

end Booking

open Booking in
theorem analyzeMethod_wraps_book :
    ∃ delegation, book.head.IsRegular ∧ analyzeMethod book = .ok delegation ∧
      Wraps book delegation ∧ InsertsInjected (head [amount, note]) book.head ∧
      delegation.wrapper.Matches contract := by
  have regular : book.head.IsRegular := by
    unfold MethodHead.IsRegular
    decide
  have accepted : ∃ delegation, analyzeMethod book = .ok delegation := ⟨_, rfl⟩
  obtain ⟨delegation, accepted⟩ := accepted
  have wraps := analyzeMethod_wraps regular accepted
  have inserts : InsertsInjected (head [amount, note]) book.head :=
    ⟨rfl, .kept rfl id <| .inserted (by decide) <| .kept rfl (show ¬ IsInjected _ by decide) <|
      .inserted (by decide) <| .kept rfl (show ¬ IsInjected _ by decide) .nil⟩
  exact ⟨delegation, regular, accepted, wraps, inserts, wraps.stillMatches inserts rfl⟩

open Booking in
/-- The wrapper shows the amount and the note. -/
example : (analyzeMethod book).toOption.map (fun delegation =>
      Token.spaced (Lexeme.tokens delegation.wrapper.lexemes)) =
    some ("async fn book ( & self , amount : u64 , note : String ) " ++
      "-> Result < bool , Fault >") := by
  decide +kernel

end ServiceDispatch.Generate
