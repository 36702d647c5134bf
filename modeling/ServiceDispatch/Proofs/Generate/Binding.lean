import Mathlib.Data.List.DropRight
import ServiceDispatch.Proofs.Generate.Acceptance
import ServiceDispatch.Proofs.Generate.Conflict

/-!
# Bindings of injected parameters

Which binding an injected parameter gets, or which problems it has, is said of its type and of the
arguments of its marker, as a choice between cases of which just one applies. Of several markers of
one parameter only the first is read, and what cannot be read as arguments at all is refused for
that. What becomes of the methods of the parameters is not the subject here.
-/

namespace ServiceDispatch

/-- A text without the white space at its ends is empty if it is white space alone. -/
theorem Text.trim_eq_empty_iff {s : String} : trim s = "" ↔ isBlankText s = true := by
  have once : (s.toList.dropWhile isBlank).dropWhile isBlank = s.toList.dropWhile isBlank :=
    List.dropWhile_idempotent ..
  have front : (∀ c ∈ s.toList, isBlank c = true) ↔
      ∀ c ∈ s.toList.dropWhile isBlank, isBlank c = true := by
    rw [← List.dropWhile_eq_nil_iff, ← List.dropWhile_eq_nil_iff, once]
  rw [isBlankText, List.all_eq_true, front, trim, ← String.toList_inj]
  simp

namespace Source

/-- The only type among some arguments. Lifetimes, constants and constraints do not count. -/
def IsOnlyType (inner : Ty) (items : List Argument) : Prop :=
  ∃ before after, items = before ++ .type inner :: after ∧
    ∀ other ∈ before ++ after, ∃ lexemes, other = .other lexemes

namespace Ty

/-- A type is given by a path with the last name. -/
def EndsIn (last : String) (type : Ty) : Prop :=
  ∃ qualifier name arguments, Encloses (.named qualifier name arguments) type ∧ name.text = last

/-- A type is that of a wrapper around one other type, as `Option<T>`. -/
def IsWrapped (wrapper : String) (inner type : Ty) : Prop :=
  ∃ qualifier name opening items trailing closing,
    Encloses (.named qualifier name (.angle opening items trailing closing)) type ∧
      name.text = wrapper ∧ IsOnlyType inner items

theorem encloses_iff {core type : Ty} : Encloses core type ↔ type.ungroup = core := by
  constructor
  · exact Encloses.ungroup_eq
  · rintro rfl
    exact encloses_ungroup type

theorem lastName?_eq_some_iff {type : Ty} {last : String} :
    type.lastName? = some last ↔ EndsIn last type := by
  simp only [EndsIn, encloses_iff, lastName?]
  cases type.ungroup <;> simp

theorem typesAmong_eq_nil_iff {items : List Argument} :
    typesAmong items = [] ↔ ∀ item ∈ items, ∃ lexemes, item = .other lexemes := by
  induction items with
  | nil => simp [typesAmong]
  | cons item rest ih => cases item <;> simp [typesAmong, ih]

theorem typesAmong_append (first second : List Argument) :
    typesAmong (first ++ second) = typesAmong first ++ typesAmong second := by
  induction first with
  | nil => rfl
  | cons item rest ih => cases item <;> simp [typesAmong, ih]

theorem typesAmong_eq_singleton_iff {inner : Ty} {items : List Argument} :
    typesAmong items = [inner] ↔ IsOnlyType inner items := by
  constructor
  · intro only
    induction items with
    | nil => cases only
    | cons item rest ih =>
      cases item with
      | type first =>
        obtain ⟨rfl, others⟩ := List.cons.inj only
        exact ⟨[], rest, rfl, typesAmong_eq_nil_iff.mp others⟩
      | other lexemes =>
        obtain ⟨before, after, rfl, others⟩ := ih only
        exact ⟨.other lexemes :: before, after, rfl,
          List.forall_mem_cons.mpr ⟨⟨lexemes, rfl⟩, others⟩⟩
  · rintro ⟨before, after, rfl, others⟩
    obtain ⟨earlier, later⟩ := List.forall_mem_append.mp others
    rw [typesAmong_append, typesAmong, typesAmong_eq_nil_iff.mpr earlier,
      typesAmong_eq_nil_iff.mpr later, List.nil_append]

theorem typeArguments_eq_cons_iff {type first : Ty} {rest : List Ty} :
    type.typeArguments = first :: rest ↔ ∃ qualifier name opening items trailing closing,
      type.ungroup = .named qualifier name (.angle opening items trailing closing) ∧
        typesAmong items = first :: rest := by
  rw [typeArguments]
  constructor
  · intro found
    split at found
    · rename_i qualifier name opening items trailing closing core
      exact ⟨qualifier, name, opening, items, trailing, closing, core, found⟩
    · cases found
  · rintro ⟨qualifier, name, opening, items, trailing, closing, core, found⟩
    rw [core]
    exact found

theorem unwrap?_eq_some_iff {type inner : Ty} {wrapper : String} :
    type.unwrap? wrapper = some inner ↔ IsWrapped wrapper inner type := by
  have only : type.unwrap? wrapper = some inner ↔
      type.lastName? = some wrapper ∧ type.typeArguments = [inner] := by
    rw [unwrap?]
    by_cases named : type.lastName? = some wrapper
    · rw [if_pos named]
      rcases type.typeArguments with _ | ⟨first, _ | ⟨second, rest⟩⟩ <;> simp [named]
    · simp [named]
  rw [only, typeArguments_eq_cons_iff]
  simp only [IsWrapped, encloses_iff, lastName?, typesAmong_eq_singleton_iff]
  constructor
  · rintro ⟨named, qualifier, name, opening, items, trailing, closing, core, inside⟩
    rw [core] at named
    exact ⟨qualifier, name, opening, items, trailing, closing, core, Option.some.inj named, inside⟩
  · rintro ⟨qualifier, name, opening, items, trailing, closing, core, named, inside⟩
    rw [core]
    exact ⟨congrArg some named, qualifier, name, opening, items, trailing, closing, rfl, inside⟩

theorem IsWrapped.lastName?_eq {wrapper : String} {inner type : Ty}
    (wrapped : IsWrapped wrapper inner type) : type.lastName? = some wrapper := by
  obtain ⟨qualifier, name, opening, items, trailing, closing, core, named, -⟩ := wrapped
  exact lastName?_eq_some_iff.mpr ⟨qualifier, name, _, core, named⟩

theorem unwrap?_eq_none_iff {type : Ty} {wrapper : String} :
    type.unwrap? wrapper = none ↔ ∀ inner, ¬ IsWrapped wrapper inner type := by
  simp only [← unwrap?_eq_some_iff, Option.eq_none_iff_forall_ne_some, ne_eq]

end Ty

end Source

namespace Generate

open Source

/-- The key that some arguments name; the last one counts. -/
def NamesKey (found : List InjectArgument) (key : StringArgument) : Prop :=
  ∃ earlier later, found = earlier ++ .key key :: later ∧ ∀ text, .key text ∉ later

/-- The message property that some arguments name; the last one counts. -/
def NamesProperty (found : List InjectArgument) (property : StringArgument) : Prop :=
  ∃ earlier later, found = earlier ++ .property property :: later ∧
    ∀ text, .property text ∉ later

theorem propertyOf?_eq_some_iff {found : List InjectArgument} {property : StringArgument} :
    propertyOf? found = some property ↔ NamesProperty found property :=
  getLast?_kind_eq_some_iff fun argument value => by cases argument <;> simp

theorem keyOf?_eq_none_iff {found : List InjectArgument} :
    keyOf? found = none ↔ ∀ text, .key text ∉ found := by
  rw [keyOf?, List.getLast?_eq_none_iff]
  exact filterMap_kind_eq_nil_iff fun argument value => by cases argument <;> simp

theorem propertyOf?_eq_none_iff {found : List InjectArgument} :
    propertyOf? found = none ↔ ∀ text, .property text ∉ found := by
  rw [propertyOf?, List.getLast?_eq_none_iff]
  exact filterMap_kind_eq_nil_iff fun argument value => by cases argument <;> simp

theorem unknownOf_eq_nil_iff {found : List InjectArgument} :
    unknownOf found = [] ↔ ∀ path, .unknown path ∉ found :=
  filterMap_kind_eq_nil_iff fun argument value => by cases argument <;> simp

/-- Some arguments ask for a message property. -/
structure AsksProperty (found : List InjectArgument) (property : StringArgument) : Prop where
  /-- All arguments are known. -/
  known : ∀ path, .unknown path ∉ found
  /-- No key is named. -/
  keyless : ∀ text, .key text ∉ found
  /-- The property is named. -/
  names : NamesProperty found property

/-- The name of the type of a part of the transport state. -/
def transportName : TransportPart → String
  | .context => "TransportContext"
  | .request => "TransportRequest"
  | .response => "TransportResponse"

/-- A type and some arguments ask for a part of the transport state. -/
structure AsksTransport (type : Ty) (found : List InjectArgument) (part : TransportPart) :
    Prop where
  /-- All arguments are known. -/
  known : ∀ path, .unknown path ∉ found
  /-- No key is named. -/
  keyless : ∀ text, .key text ∉ found
  /-- No property is named. -/
  propertyless : ∀ text, .property text ∉ found
  /-- The type is that of the part. -/
  named : type.EndsIn (transportName part)

/-- A type and some arguments ask for a service. -/
structure AsksService (type : Ty) (found : List InjectArgument) : Prop where
  /-- All arguments are known. -/
  known : ∀ path, .unknown path ∉ found
  /-- No property is named. -/
  propertyless : ∀ text, .property text ∉ found
  /-- No part of the transport state is asked for. -/
  other : ∀ part, ¬ AsksTransport type found part

/-- How a service is asked for: by the key that is named, or by its type alone. -/
inductive ServicePlan (found : List InjectArgument) : ResolutionPlan → Prop where
  /-- The key counts as it is named, empty ones included. -/
  | keyed {key : StringArgument} (names : NamesKey found key) :
      ServicePlan found (.keyedService key.value)
  /-- Nothing but the type counts. -/
  | default (keyless : ∀ text, .key text ∉ found) : ServicePlan found .defaultService

/-- The problem of a message property without a name. -/
def emptyPropertyFault (name : Name) (property : StringArgument) : Diagnostic :=
  ⟨.emptyPropertyName, "message property name of `" ++ name.text ++ "` must not be empty",
    property.span⟩

/-- The problem of a type that is not that of a service. -/
def unsupportedFault (name : Name) (type : Ty) : Diagnostic :=
  ⟨.unsupportedServiceType,
    "injected service `" ++ name.text ++ "` must be `Arc<T>` or `Option<Arc<T>>`", type.span⟩

/-- What a parameter with an identifier and a type is bound to by the arguments of its marker, or
what is reported of it. No two cases have a result in common. -/
inductive Binds (name : Name) (type : Ty) (found : List InjectArgument) :
    Except (List Diagnostic) (Injected Ty) → Prop where
  /-- A property and a key are one problem, whatever else there is. -/
  | conflict {key : StringArgument} (both : NamesBoth found key) :
      Binds name type found (.error [conflictFault name key])
  /-- Without a conflict, each argument that is not known is a problem. -/
  | unknown {path : NamePath} (single : ∀ key, ¬ NamesBoth found key)
      (mem : .unknown path ∈ found) :
      Binds name type found (.error ((unknownOf found).map unknownFault))
  /-- A property needs a name. -/
  | emptyProperty {property : StringArgument} (asks : AsksProperty found property)
      (empty : Text.trim property.value = "") :
      Binds name type found (.error [emptyPropertyFault name property])
  /-- A property of type `Option<T>` is an optional one of type `T`, -/
  | optionalProperty {property : StringArgument} {target : Ty} (asks : AsksProperty found property)
      (filled : Text.trim property.value ≠ "") (optional : Ty.IsWrapped "Option" target type) :
      Binds name type found
        (.ok ⟨.messageProperty property.value target.typeName, target, true⟩)
  /-- and one of any other type is of just this type. -/
  | property {property : StringArgument} (asks : AsksProperty found property)
      (filled : Text.trim property.value ≠ "")
      (whole : ∀ target, ¬ Ty.IsWrapped "Option" target type) :
      Binds name type found (.ok ⟨.messageProperty property.value type.typeName, type, false⟩)
  /-- A part of the transport state is asked for by its type. -/
  | transport {part : TransportPart} (asks : AsksTransport type found part) :
      Binds name type found (.ok ⟨.transport part, type, false⟩)
  /-- A service is shared, -/
  | service {plan : ResolutionPlan} {target : Ty} (asks : AsksService type found)
      (planned : ServicePlan found plan) (shared : Ty.IsWrapped "Arc" target type) :
      Binds name type found (.ok ⟨plan, target, false⟩)
  /-- and it may be an optional one. -/
  | optionalService {plan : ResolutionPlan} {inner target : Ty} (asks : AsksService type found)
      (planned : ServicePlan found plan) (optional : Ty.IsWrapped "Option" inner type)
      (shared : Ty.IsWrapped "Arc" target inner) :
      Binds name type found (.ok ⟨plan, target, true⟩)
  /-- Nothing else is a service. -/
  | unsupported (asks : AsksService type found)
      (other : ∀ target, ¬ Ty.IsWrapped "Arc" target type)
      (otherInside : ∀ inner target, Ty.IsWrapped "Option" inner type →
        ¬ Ty.IsWrapped "Arc" target inner) :
      Binds name type found (.error [unsupportedFault name type])

variable {name : Name} {type : Ty} {found : List InjectArgument}

theorem namesBoth_none_iff : (∀ key, ¬ NamesBoth found key) ↔
    propertyOf? found = none ∨ keyOf? found = none := by
  simp only [namesBoth_iff]
  cases propertyOf? found <;> cases keyOf? found <;> simp

theorem transportPart?_eq_some_iff {part : TransportPart} :
    transportPart? type = some part ↔ type.EndsIn (transportName part) := by
  rw [← Ty.lastName?_eq_some_iff, transportPart?]
  split
  · cases part <;> simp_all [transportName]
  · cases part <;> simp_all [transportName]
  · cases part <;> simp_all [transportName]
  · cases part <;> simp_all [transportName]

theorem transportPart?_eq_none_iff :
    transportPart? type = none ↔ ∀ part, ¬ type.EndsIn (transportName part) := by
  simp only [← transportPart?_eq_some_iff, Option.eq_none_iff_forall_ne_some, ne_eq]

/-- Some arguments conflict, or one of them is unknown, or they ask for something. -/
theorem asks_cases (type : Ty) (found : List InjectArgument) :
    (∃ key, NamesBoth found key) ∨
      ((∀ key, ¬ NamesBoth found key) ∧ ∃ path, .unknown path ∈ found) ∨
      (∃ property, AsksProperty found property) ∨
      (∃ part, AsksTransport type found part) ∨ AsksService type found := by
  by_cases conflict : ∃ key, NamesBoth found key
  · exact .inl conflict
  have single : ∀ key, ¬ NamesBoth found key := not_exists.mp conflict
  by_cases unknown : ∃ path, .unknown path ∈ found
  · exact .inr (.inl ⟨single, unknown⟩)
  have known : ∀ path, .unknown path ∉ found := not_exists.mp unknown
  refine .inr (.inr ?_)
  cases named : propertyOf? found with
  | some property =>
    obtain nothing | keyless := namesBoth_none_iff.mp single
    · rw [named] at nothing
      cases nothing
    · exact .inl ⟨property, known, keyOf?_eq_none_iff.mp keyless, propertyOf?_eq_some_iff.mp named⟩
  | none =>
    have propertyless := propertyOf?_eq_none_iff.mp named
    by_cases part : ∃ part, AsksTransport type found part
    · exact .inr (.inl part)
    · exact .inr (.inr ⟨known, propertyless, not_exists.mp part⟩)

theorem bindInjection_of_namesBoth {key : StringArgument} (both : NamesBoth found key) :
    bindInjection name type found = .error [conflictFault name key] := by
  obtain ⟨property, last⟩ := namesBoth_iff.mp both
  obtain ⟨text, named⟩ := Option.isSome_iff_exists.mp property
  simp only [bindInjection, named, last, conflictFault]

theorem bindInjection_of_unknown {path : NamePath} (single : ∀ key, ¬ NamesBoth found key)
    (mem : .unknown path ∈ found) :
    bindInjection name type found = .error ((unknownOf found).map unknownFault) := by
  have unknown : (unknownOf found).isEmpty = false := by
    rw [← Bool.not_eq_true, List.isEmpty_iff, unknownOf_eq_nil_iff]
    exact fun known => known path mem
  obtain propertyless | keyless := namesBoth_none_iff.mp single
  · simp [bindInjection, propertyless, unknown]
  · cases named : propertyOf? found <;> simp [bindInjection, named, keyless, unknown]

theorem bindInjection_of_asksProperty {property : StringArgument}
    (asks : AsksProperty found property) :
    bindInjection name type found = bindProperty name type property := by
  simp [bindInjection, propertyOf?_eq_some_iff.mpr asks.names, keyOf?_eq_none_iff.mpr asks.keyless,
    unknownOf_eq_nil_iff.mpr asks.known]

theorem bindInjection_of_asksTransport {part : TransportPart}
    (asks : AsksTransport type found part) :
    bindInjection name type found = .ok ⟨.transport part, type, false⟩ := by
  simp [bindInjection, propertyOf?_eq_none_iff.mpr asks.propertyless,
    keyOf?_eq_none_iff.mpr asks.keyless, unknownOf_eq_nil_iff.mpr asks.known,
    transportPart?_eq_some_iff.mpr asks.named]

theorem bindInjection_of_asksService (asks : AsksService type found) :
    bindInjection name type found = bindService name type (keyOf? found) := by
  have propertyless := propertyOf?_eq_none_iff.mpr asks.propertyless
  have known := unknownOf_eq_nil_iff.mpr asks.known
  cases named : keyOf? found with
  | some key => simp [bindInjection, propertyless, known, named]
  | none =>
    have other : transportPart? type = none := by
      refine transportPart?_eq_none_iff.mpr fun part ends => asks.other part ?_
      exact ⟨asks.known, keyOf?_eq_none_iff.mp named, asks.propertyless, ends⟩
    simp [bindInjection, propertyless, known, named, other]

theorem optionalTarget_of_isWrapped {target : Ty} (optional : Ty.IsWrapped "Option" target type) :
    optionalTarget type = (target, true) := by
  rw [optionalTarget, Ty.unwrap?_eq_some_iff.mpr optional]

theorem optionalTarget_of_forall_not (whole : ∀ target, ¬ Ty.IsWrapped "Option" target type) :
    optionalTarget type = (type, false) := by
  rw [optionalTarget, Ty.unwrap?_eq_none_iff.mpr whole]

theorem exists_servicePlan (found : List InjectArgument) : ∃ plan, ServicePlan found plan := by
  cases named : keyOf? found with
  | some key => exact ⟨_, .keyed (keyOf?_eq_some_iff.mp named)⟩
  | none => exact ⟨_, .default (keyOf?_eq_none_iff.mp named)⟩

/-- A service is bound by its plan, whether it is optional or not. -/
theorem bindService_of_isWrapped {plan : ResolutionPlan} {shared target : Ty} {isOptional : Bool}
    (planned : ServicePlan found plan) (inside : optionalTarget type = (shared, isOptional))
    (wrapped : Ty.IsWrapped "Arc" target shared) :
    bindService name type (keyOf? found) = .ok ⟨plan, target, isOptional⟩ := by
  have unwrapped := Ty.unwrap?_eq_some_iff.mpr wrapped
  cases planned with
  | keyed names => simp [bindService, inside, unwrapped, keyOf?_eq_some_iff.mpr names]
  | default keyless => simp [bindService, inside, unwrapped, keyOf?_eq_none_iff.mpr keyless]

theorem bindService_of_forall_not {shared : Ty} {isOptional : Bool} {key? : Option StringArgument}
    (inside : optionalTarget type = (shared, isOptional))
    (other : ∀ target, ¬ Ty.IsWrapped "Arc" target shared) :
    bindService name type key? = .error [unsupportedFault name type] := by
  simp [bindService, inside, Ty.unwrap?_eq_none_iff.mpr other, unsupportedFault]

/-- What is shared itself is not optional. -/
theorem forall_not_of_isWrapped {target : Ty} (shared : Ty.IsWrapped "Arc" target type) :
    ∀ inner, ¬ Ty.IsWrapped "Option" inner type := by
  intro inner optional
  have same := shared.lastName?_eq.symm.trans optional.lastName?_eq
  exact absurd same (by decide)

theorem Binds.bindInjection_eq {result : Except (List Diagnostic) (Injected Ty)}
    (binds : Binds name type found result) : bindInjection name type found = result := by
  cases binds with
  | conflict both => exact bindInjection_of_namesBoth both
  | unknown single mem => exact bindInjection_of_unknown single mem
  | emptyProperty asks empty =>
    rw [bindInjection_of_asksProperty asks, bindProperty, if_pos (Text.trim_eq_empty_iff.mp empty),
      emptyPropertyFault]
  | optionalProperty asks filled optional =>
    rw [bindInjection_of_asksProperty asks, bindProperty,
      if_neg (mt Text.trim_eq_empty_iff.mpr filled), optionalTarget_of_isWrapped optional]
  | property asks filled whole =>
    rw [bindInjection_of_asksProperty asks, bindProperty,
      if_neg (mt Text.trim_eq_empty_iff.mpr filled), optionalTarget_of_forall_not whole]
  | transport asks => exact bindInjection_of_asksTransport asks
  | service asks planned shared =>
    rw [bindInjection_of_asksService asks]
    have inside := optionalTarget_of_forall_not (forall_not_of_isWrapped shared)
    exact bindService_of_isWrapped planned inside shared
  | optionalService asks planned optional shared =>
    rw [bindInjection_of_asksService asks]
    exact bindService_of_isWrapped planned (optionalTarget_of_isWrapped optional) shared
  | unsupported asks other otherInside =>
    rw [bindInjection_of_asksService asks]
    by_cases optional : ∃ inner, Ty.IsWrapped "Option" inner type
    · obtain ⟨inner, optional⟩ := optional
      exact bindService_of_forall_not (optionalTarget_of_isWrapped optional)
        fun target => otherInside inner target optional
    · exact bindService_of_forall_not (optionalTarget_of_forall_not (not_exists.mp optional)) other

/-- One of the cases applies. -/
theorem exists_binds (name : Name) (type : Ty) (found : List InjectArgument) :
    ∃ result, Binds name type found result := by
  obtain ⟨key, both⟩ | ⟨single, path, mem⟩ | ⟨property, asks⟩ | ⟨part, asks⟩ | asks :=
    asks_cases type found
  · exact ⟨_, .conflict both⟩
  · exact ⟨_, .unknown single mem⟩
  · by_cases empty : Text.trim property.value = ""
    · exact ⟨_, .emptyProperty asks empty⟩
    by_cases optional : ∃ target, Ty.IsWrapped "Option" target type
    · obtain ⟨target, optional⟩ := optional
      exact ⟨_, .optionalProperty asks empty optional⟩
    · exact ⟨_, .property asks empty (not_exists.mp optional)⟩
  · exact ⟨_, .transport asks⟩
  · obtain ⟨plan, planned⟩ := exists_servicePlan found
    by_cases shared : ∃ target, Ty.IsWrapped "Arc" target type
    · obtain ⟨target, shared⟩ := shared
      exact ⟨_, .service asks planned shared⟩
    by_cases optional : ∃ inner target, Ty.IsWrapped "Option" inner type ∧
        Ty.IsWrapped "Arc" target inner
    · obtain ⟨inner, target, optional, shared⟩ := optional
      exact ⟨_, .optionalService asks planned optional shared⟩
    · refine ⟨_, .unsupported asks (not_exists.mp shared) fun inner target wrapped inside => ?_⟩
      exact optional ⟨inner, target, wrapped, inside⟩

/-- Analysis takes the case that applies. -/
theorem bindInjection_eq_iff {result : Except (List Diagnostic) (Injected Ty)} :
    bindInjection name type found = result ↔ Binds name type found result := by
  constructor
  · rintro rfl
    obtain ⟨result, binds⟩ := exists_binds name type found
    rwa [binds.bindInjection_eq]
  · exact Binds.bindInjection_eq

namespace Booking

/-- A type with type arguments. -/
def applied (text : String) (inner : List Ty) : Ty :=
  .named [] (Recording.name text)
    (.angle [⟨.mark '<' false, .nowhere⟩] (inner.map .type) false ⟨.mark '>' false, .nowhere⟩)

end Booking

open Booking in
/-- Of two keys the last one counts, and the type of a service may be that of an optional one. -/
example : bindInjection (Recording.name "clock")
      (applied "Option" [applied "Arc" [Recording.named "Clock"]])
      [.key ⟨"local", .nowhere⟩, .key ⟨"utc", .nowhere⟩] =
    .ok ⟨.keyedService "utc", Recording.named "Clock", true⟩ := by
  rfl

/-- A parameter carries the marker of injections. -/
def IsInjected (input : TypedInput) : Prop :=
  ∃ attr ∈ input.attributes, attr.isMarker injectMarker = true

theorem any_injectMarker_iff {input : TypedInput} :
    input.attributes.any (Attribute.isMarker injectMarker) = true ↔ IsInjected input :=
  List.any_eq_true

instance (input : TypedInput) : Decidable (IsInjected input) :=
  decidable_of_iff _ any_injectMarker_iff

/-- The marker of a parameter; of several ones the first counts. -/
def FirstMarker (input : TypedInput) (attr : Attribute) : Prop :=
  ∃ earlier later, input.attributes = earlier ++ attr :: later ∧
    (∀ former ∈ earlier, former.isMarker injectMarker = false) ∧
    attr.isMarker injectMarker = true

/-- Who supplies a parameter, or what is reported of it. -/
inductive Provides (input : TypedInput) :
    Except (List Diagnostic) (Name × WrapperParameter Ty) → Prop where
  /-- A parameter has to be a plain identifier. -/
  | pattern {lexemes : List Lexeme} (pattern : input.pattern = .other lexemes) :
      Provides input
        (.error [⟨.invalidPattern, "operation parameters must be plain identifiers",
          Lexeme.spanOf lexemes⟩])
  /-- The caller supplies one that is not marked. -/
  | caller {mutable : Bool} {name : Name} (pattern : input.pattern = .name mutable name)
      (unmarked : ¬ IsInjected input) :
      Provides input (.ok (name, ⟨name.text, input.type, .caller⟩))
  /-- What the marker carries may be no arguments. -/
  | unreadable {mutable : Bool} {name : Name} {attr : Attribute} {fault : ArgumentFault}
      (pattern : input.pattern = .name mutable name) (first : FirstMarker input attr)
      (read : injectArguments attr = .error fault) :
      Provides input (.error [⟨.invalidAttribute, fault.message, .nowhere⟩])
  /-- The wrapper supplies one that is bound. -/
  | injected {mutable : Bool} {name : Name} {attr : Attribute} {found : List InjectArgument}
      {injected : Injected Ty} (pattern : input.pattern = .name mutable name)
      (first : FirstMarker input attr) (read : injectArguments attr = .ok found)
      (binds : Binds name input.type found (.ok injected)) :
      Provides input (.ok (name, ⟨name.text, input.type, .injected injected⟩))
  /-- One that cannot be bound is refused. -/
  | refused {mutable : Bool} {name : Name} {attr : Attribute} {found : List InjectArgument}
      {faults : List Diagnostic} (pattern : input.pattern = .name mutable name)
      (first : FirstMarker input attr) (read : injectArguments attr = .ok found)
      (binds : Binds name input.type found (.error faults)) : Provides input (.error faults)

variable {input : TypedInput}

theorem find?_marker_eq_none_iff :
    input.attributes.find? (Attribute.isMarker injectMarker) = none ↔ ¬ IsInjected input := by
  simp [IsInjected]

theorem find?_marker_eq_some_iff {attr : Attribute} :
    input.attributes.find? (Attribute.isMarker injectMarker) = some attr ↔
      FirstMarker input attr := by
  simp only [FirstMarker, List.find?_eq_some_iff_append, Bool.not_eq_true']
  constructor
  · rintro ⟨marked, earlier, later, listed, others⟩
    exact ⟨earlier, later, listed, others, marked⟩
  · rintro ⟨earlier, later, listed, others, marked⟩
    exact ⟨marked, earlier, later, listed, others⟩

theorem Provides.analyzeInjection_eq
    {result : Except (List Diagnostic) (Name × WrapperParameter Ty)}
    (provides : Provides input result) : analyzeInjection input = result := by
  cases provides with
  | pattern pattern => simp [analyzeInjection, plainName, pattern]
  | caller pattern unmarked =>
    simp [analyzeInjection, plainName, pattern, find?_marker_eq_none_iff.mpr unmarked]
  | unreadable pattern first read =>
    simp [analyzeInjection, plainName, pattern, find?_marker_eq_some_iff.mpr first, planInjection,
      read]
  | injected pattern first read binds =>
    simp [analyzeInjection, plainName, pattern, find?_marker_eq_some_iff.mpr first, planInjection,
      read, binds.bindInjection_eq]
  | refused pattern first read binds =>
    simp [analyzeInjection, plainName, pattern, find?_marker_eq_some_iff.mpr first, planInjection,
      read, binds.bindInjection_eq]

/-- A parameter is supplied or refused. -/
theorem exists_provides (input : TypedInput) : ∃ result, Provides input result := by
  cases pattern : input.pattern with
  | other lexemes => exact ⟨_, .pattern pattern⟩
  | name mutable name =>
    cases marker : input.attributes.find? (Attribute.isMarker injectMarker) with
    | none => exact ⟨_, .caller pattern (find?_marker_eq_none_iff.mp marker)⟩
    | some attr =>
      have first := find?_marker_eq_some_iff.mp marker
      cases read : injectArguments attr with
      | error fault => exact ⟨_, .unreadable pattern first read⟩
      | ok found =>
        obtain ⟨result, binds⟩ := exists_binds name input.type found
        cases result with
        | error faults => exact ⟨_, .refused pattern first read binds⟩
        | ok injected => exact ⟨_, .injected pattern first read binds⟩

theorem analyzeInjection_eq_iff {result : Except (List Diagnostic) (Name × WrapperParameter Ty)} :
    analyzeInjection input = result ↔ Provides input result := by
  constructor
  · rintro rfl
    obtain ⟨result, provides⟩ := exists_provides input
    rwa [provides.analyzeInjection_eq]
  · exact Provides.analyzeInjection_eq

end Generate

end ServiceDispatch
