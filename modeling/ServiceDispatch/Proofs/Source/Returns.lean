import ServiceDispatch.Proofs.Generate.Binding

/-!
# What a declared return means

Adapters ask of a declared return whether it can fail and whether it carries a value, wrappers only
whether it can fail; both read it alike, by its last name and its first type argument. Brackets play
no part in either reading. What an alias named `Result` stands for is not known here, and a path
that a type qualifies has no last name in this sense.
-/

namespace ServiceDispatch.Source

namespace Ty

/-- The second type is the first one with any number of further brackets around it. -/
inductive Brackets (type : Ty) : Ty → Prop where
  /-- No further ones. -/
  | none : Brackets type type
  /-- One more pair of parentheses. -/
  | paren {inner : Ty} (span : Span) (brackets : Brackets type inner) :
      Brackets type (.paren inner span)
  /-- One more pair of invisible brackets. -/
  | group {inner : Ty} (brackets : Brackets type inner) : Brackets type (.group inner)

/-- A type is `()`. -/
def IsVoid (type : Ty) : Prop := ∃ span, Encloses (.unit span) type

/-- The first type among some arguments. Lifetimes, constants and constraints do not count. -/
def IsFirstType (first : Ty) (items : List Argument) : Prop :=
  ∃ before after, items = before ++ .type first :: after ∧
    ∀ other ∈ before, ∃ lexemes, other = .other lexemes

/-- The first type argument of a type that is given by a path. -/
def HasFirst (first type : Ty) : Prop :=
  ∃ qualifier name opening items trailing closing,
    Encloses (.named qualifier name (.angle opening items trailing closing)) type ∧
      IsFirstType first items

/-- The second type is the first one with further brackets around its first type argument, and
perhaps with other brackets around itself. -/
inductive BracketsFirst : Ty → Ty → Prop where
  /-- All other arguments are left alike. -/
  | argument {qualifier : List Lexeme} {name : Name} {opening : List Lexeme}
      {before after : List Argument} {trailing : Bool} {closing : Lexeme}
      {first bracketed type other : Ty}
      (leading : ∀ item ∈ before, ∃ lexemes, item = .other lexemes)
      (brackets : Brackets first bracketed)
      (given : Encloses
        (.named qualifier name (.angle opening (before ++ .type first :: after) trailing closing))
        type)
      (changed : Encloses
        (.named qualifier name
          (.angle opening (before ++ .type bracketed :: after) trailing closing)) other) :
      BracketsFirst type other

/-- The questions about a type have the same answers for another one. -/
structure AnswersAlike (type other : Ty) : Prop where
  /-- Whether it is `()`. -/
  isUnit : other.isUnit = type.isUnit
  /-- Its last name. -/
  lastName : other.lastName? = type.lastName?
  /-- The value and the error of a `Result`. -/
  resultParts : other.resultParts? = type.resultParts?
  /-- The only argument of any wrapper. -/
  unwrap : ∀ wrapper, other.unwrap? wrapper = type.unwrap? wrapper

end Ty

/-- Two declared returns mean the same. -/
structure MeansAlike (output other : Option Ty) : Prop where
  /-- To an adapter: whether an error must be surfaced, -/
  fallible : (ReturnSpec.ofOutput other).fallible = (ReturnSpec.ofOutput output).fallible
  /-- and whether a value is returned. -/
  hasValue : (ReturnSpec.ofOutput other).hasValue = (ReturnSpec.ofOutput output).hasValue
  /-- To a wrapper: whether an error can be returned. -/
  returnsResult : returnsResult other = returnsResult output

/-- How a declared return is read. -/
structure IsReadAlike (output : Option Ty) : Prop where
  /-- Wrappers and adapters agree whether it can fail, -/
  agree : returnsResult output = (ReturnSpec.ofOutput output).fallible
  /-- which is told by the last name of the type. -/
  spelled : returnsResult output = true ↔ ∃ type, output = some type ∧ type.EndsIn "Result"
  /-- It carries a value if it is declared, is not `()`, and is no `Result` or one of something. -/
  carries : (ReturnSpec.ofOutput output).hasValue = true ↔
    ∃ type, output = some type ∧ ¬ type.IsVoid ∧
      (¬ type.EndsIn "Result" ∨
        type.EndsIn "Result" ∧ ∃ first, Ty.HasFirst first type ∧ ¬ first.IsVoid)
  /-- Brackets around the type play no part, -/
  brackets : ∀ type other, output = some type → type.Brackets other →
    type.AnswersAlike other ∧ MeansAlike output (some other)
  /-- nor do those around the first type argument of a `Result`. -/
  first : ∀ type other, output = some type → type.EndsIn "Result" → type.BracketsFirst other →
    MeansAlike output (some other)

namespace Ty

variable {type other first bracketed : Ty} {items : List Argument}

theorem Brackets.ungroup_eq (brackets : Brackets type other) : other.ungroup = type.ungroup := by
  induction brackets with
  | none => rfl
  | paren span _ ih => rw [ungroup, ih]
  | group _ ih => rw [ungroup, ih]

theorem isUnit_iff : type.isUnit = true ↔ IsVoid type := by
  simp only [IsVoid, encloses_iff, isUnit]
  cases type.ungroup <;> simp

theorem isResult_iff : type.isResult = true ↔ EndsIn "Result" type := by
  rw [isResult, decide_eq_true_iff, lastName?_eq_some_iff]

/-- A type with a last name is not `()`. -/
theorem EndsIn.not_isVoid {last : String} (named : EndsIn last type) : ¬ IsVoid type := by
  rintro ⟨span, void⟩
  obtain ⟨qualifier, name, arguments, path, -⟩ := named
  have same := void.ungroup_eq.symm.trans path.ungroup_eq
  cases same

theorem head?_typesAmong_eq_some_iff :
    (typesAmong items).head? = some first ↔ IsFirstType first items := by
  constructor
  · intro found
    induction items with
    | nil => cases found
    | cons item rest ih =>
      cases item with
      | type inner =>
        obtain rfl : inner = first := Option.some.inj found
        exact ⟨[], rest, rfl, nofun⟩
      | other lexemes =>
        obtain ⟨before, after, rfl, others⟩ := ih found
        exact ⟨.other lexemes :: before, after, rfl,
          List.forall_mem_cons.mpr ⟨⟨lexemes, rfl⟩, others⟩⟩
  · rintro ⟨before, after, rfl, others⟩
    rw [typesAmong_append, typesAmong_eq_nil_iff.mpr others, List.nil_append, typesAmong,
      List.head?_cons]

theorem head?_typeArguments_eq_some_iff :
    type.typeArguments.head? = some first ↔ HasFirst first type := by
  simp only [HasFirst, encloses_iff, ← head?_typesAmong_eq_some_iff]
  rw [List.head?_eq_some_iff]
  constructor
  · rintro ⟨rest, found⟩
    obtain ⟨qualifier, name, opening, items, trailing, closing, core, inside⟩ :=
      typeArguments_eq_cons_iff.mp found
    exact ⟨qualifier, name, opening, items, trailing, closing, core, by rw [inside]; rfl⟩
  · rintro ⟨qualifier, name, opening, items, trailing, closing, core, inside⟩
    obtain ⟨rest, listed⟩ := List.head?_eq_some_iff.mp inside
    exact ⟨rest, typeArguments_eq_cons_iff.mpr
      ⟨qualifier, name, opening, items, trailing, closing, core, listed⟩⟩

/-- Only what is inside of the brackets around a type counts. -/
theorem answersAlike_of_ungroup (same : other.ungroup = type.ungroup) :
    AnswersAlike type other := by
  have lastName : other.lastName? = type.lastName? := by rw [lastName?, same, lastName?]
  have arguments : other.typeArguments = type.typeArguments := by
    rw [typeArguments, same, typeArguments]
  exact
    { isUnit := by rw [isUnit, same, isUnit]
      lastName
      resultParts := by rw [resultParts?, lastName, arguments, resultParts?]
      unwrap := fun wrapper => by rw [unwrap?, lastName, arguments, unwrap?] }

end Ty

open Ty

variable {type other : Ty}

/-- A `Result` with an error type and one without are read alike. -/
theorem ReturnSpec.ofOutput_some (type : Ty) :
    ofOutput (some type) =
      if type.isUnit then ⟨false, none⟩
      else if type.isResult then ⟨true, type.typeArguments.head?.bind unlessUnit⟩
      else ⟨false, some type⟩ := by
  rw [ofOutput]
  by_cases named : type.lastName? = some "Result"
  · have result : type.isResult = true := decide_eq_true named
    rw [resultParts?, if_pos named, if_pos result]
    split
    · rfl
    · rcases type.typeArguments with _ | ⟨value, _ | ⟨failure, _ | ⟨third, rest⟩⟩⟩ <;> rfl
  · have other : ¬ type.isResult = true := by rwa [isResult, decide_eq_true_iff]
    rw [resultParts?, if_neg named, if_neg other]

theorem fallible_ofOutput (type : Ty) :
    (ReturnSpec.ofOutput (some type)).fallible = type.isResult := by
  rw [ReturnSpec.ofOutput_some]
  by_cases void : type.isUnit = true
  · have other : type.isResult = false := by
      rw [← Bool.not_eq_true, isResult_iff]
      exact fun named => named.not_isVoid (isUnit_iff.mp void)
    rw [if_pos void, other]
  · rw [if_neg void]
    split
    · next named => rw [named]
    · next other => rw [Bool.eq_false_iff.mpr other]

/-- Which declared returns can carry an error. -/
theorem returnsResult_iff {output : Option Ty} :
    returnsResult output = true ↔ ∃ type, output = some type ∧ type.EndsIn "Result" := by
  cases output with
  | none => simp [returnsResult]
  | some type => simp [returnsResult, isResult_iff]

/-- Which declared types carry a value. -/
theorem hasValue_ofOutput_iff : (ReturnSpec.ofOutput (some type)).hasValue = true ↔
    ¬ type.IsVoid ∧ (¬ type.EndsIn "Result" ∨
      type.EndsIn "Result" ∧ ∃ first, HasFirst first type ∧ ¬ first.IsVoid) := by
  rw [ReturnSpec.hasValue, ReturnSpec.ofOutput_some, ← isUnit_iff, ← isResult_iff]
  by_cases void : type.isUnit = true
  · simp [void]
  by_cases named : type.isResult = true
  · rw [if_neg void, if_pos named]
    simp only [void, named, true_and, not_true_eq_false, false_or,
      ← head?_typeArguments_eq_some_iff, ← isUnit_iff]
    cases type.typeArguments.head? with
    | none => simp
    | some first => cases inside : first.isUnit <;> simp [ReturnSpec.unlessUnit, inside]
  · rw [if_neg void, if_neg named]
    simp [void, named]

/-- Types with the same answers mean the same as returns. -/
theorem meansAlike_of_ungroup (same : other.ungroup = type.ungroup) :
    MeansAlike (some type) (some other) := by
  have alike := answersAlike_of_ungroup same
  have result : other.isResult = type.isResult := by rw [isResult, alike.lastName, isResult]
  have void : other.IsVoid ↔ type.IsVoid := by rw [← isUnit_iff, alike.isUnit, isUnit_iff]
  have first (inner : Ty) : HasFirst inner other ↔ HasFirst inner type := by
    simp only [HasFirst, encloses_iff, same]
  exact
    { fallible := by rw [fallible_ofOutput, fallible_ofOutput, result]
      hasValue := by
        rw [Bool.eq_iff_iff, hasValue_ofOutput_iff, hasValue_ofOutput_iff]
        simp only [void, first, ← isResult_iff, result]
      returnsResult := result }

/-- The first type argument counts without the brackets around it. -/
theorem meansAlike_of_bracketsFirst (changes : BracketsFirst type other) :
    MeansAlike (some type) (some other) := by
  cases changes with
  | @argument _ _ _ before after _ _ first bracketed _ _ leading brackets given changed =>
    have result : other.isResult = type.isResult := by
      rw [isResult, isResult, lastName?, lastName?, changed.ungroup_eq, given.ungroup_eq]
    have void : other.isUnit = type.isUnit := by
      rw [isUnit, isUnit, changed.ungroup_eq, given.ungroup_eq]
    have inner : bracketed.isUnit = first.isUnit :=
      (answersAlike_of_ungroup brackets.ungroup_eq).isUnit
    have firstGiven : type.typeArguments.head? = some first :=
      head?_typeArguments_eq_some_iff.mpr
        ⟨_, _, _, _, _, _, given, before, after, rfl, leading⟩
    have firstChanged : other.typeArguments.head? = some bracketed :=
      head?_typeArguments_eq_some_iff.mpr
        ⟨_, _, _, _, _, _, changed, before, after, rfl, leading⟩
    exact
      { fallible := by rw [fallible_ofOutput, fallible_ofOutput, result]
        hasValue := by
          simp only [ReturnSpec.hasValue, ReturnSpec.ofOutput_some, void, result, firstGiven,
            firstChanged, Option.bind_some, ReturnSpec.unlessUnit, inner]
          split_ifs <;> rfl
        returnsResult := result }

/-- Every declared return is read alike by adapters and wrappers, in whatever brackets. -/
theorem output_isReadAlike (output : Option Ty) : IsReadAlike output where
  agree := by
    cases output with
    | none => rfl
    | some type => exact (fallible_ofOutput type).symm
  spelled := returnsResult_iff
  carries := by
    cases output with
    | none => simp [ReturnSpec.ofOutput, ReturnSpec.hasValue]
    | some type => simp [hasValue_ofOutput_iff]
  brackets type other declared brackets := by
    subst declared
    exact ⟨answersAlike_of_ungroup brackets.ungroup_eq, meansAlike_of_ungroup brackets.ungroup_eq⟩
  first type other declared _ changes := by
    subst declared
    exact meansAlike_of_bracketsFirst changes

open Generate.Booking Generate.Recording in
/-- `(Result<(()), Fault>)` can fail and carries nothing. -/
example : ReturnSpec.ofOutput (some (.paren
      (applied "Result" [.paren (.unit .nowhere) .nowhere, named "Fault"]) .nowhere)) =
    ⟨true, none⟩ := by
  rfl

end ServiceDispatch.Source
