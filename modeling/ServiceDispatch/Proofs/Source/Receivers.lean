import ServiceDispatch.Source.Grammar.Item

/-!
# Receivers of methods

Only the first parameter of a method can be the object it is called on, in every implementation
block that is read. What a reader records is not the subject here, only what it answers.
-/

namespace ServiceDispatch.Source

namespace Reader

variable {α β : Type}

/-- Whatever a reader answers has a property. -/
def Yields (reader : Reader α) (property : α → Prop) : Prop :=
  ∀ cursor value after, reader cursor = some (value, after) → property value

variable {reader : Reader α} {next : α → Reader β} {known : α → Prop} {property : β → Prop}

theorem Yields.pure {value : β} (holds : property value) :
    (Pure.pure value : Reader β).Yields property := by
  intro cursor found after read
  obtain ⟨rfl, -⟩ := Prod.mk.inj (Option.some.inj read)
  exact holds

theorem yields_refuse : (refuse : Reader β).Yields property := nofun

/-- What is known of the first answer can be used for the second one. -/
theorem Yields.bind (answers : reader.Yields known)
    (goesOn : ∀ value, known value → (next value).Yields property) :
    (reader >>= next).Yields property := by
  intro cursor value after read
  obtain ⟨⟨middle, rest⟩, answered, read⟩ := Option.bind_eq_some_iff.mp read
  exact goesOn middle (answers cursor middle rest answered) rest value after read

theorem yields_bind (goesOn : ∀ value, (next value).Yields property) :
    (reader >>= next).Yields property := by
  have nothing : reader.Yields fun _ => True := fun _ _ _ _ => trivial
  exact nothing.bind fun value _ => goesOn value

theorem Yields.ite {condition : Prop} [Decidable condition] {first second : Reader β}
    (positive : first.Yields property) (negative : second.Yields property) :
    (if condition then first else second).Yields property := by
  split
  · exact positive
  · exact negative

/-- A reader goes on only if the condition holds. -/
theorem yields_require (condition : Bool) :
    (require condition).Yields fun _ => condition = true := by
  cases condition with
  | false => exact yields_refuse
  | true => exact .pure rfl

theorem Yields.capture (answers : reader.Yields known) :
    (capture reader).Yields fun answer => known answer.1 := by
  intro cursor value after read
  rw [Reader.capture] at read
  split at read
  · rename_i found rest answered
    obtain ⟨rfl, -⟩ := Prod.mk.inj (Option.some.inj read)
    exact answers _ found rest answered
  · cases read

theorem Yields.unrecorded (answers : reader.Yields known) : (unrecorded reader).Yields known := by
  intro cursor value after read
  rw [Reader.unrecorded] at read
  split at read
  · rename_i found rest answered
    obtain ⟨rfl, -⟩ := Prod.mk.inj (Option.some.inj read)
    exact answers _ found rest answered
  · cases read

theorem Yields.rewritten (answers : reader.Yields known) (written : α → List Lexeme) :
    (rewritten written reader).Yields known :=
  answers.unrecorded.bind fun _ holds => yields_bind fun _ => .pure holds

theorem Yields.verbatimWhen (answers : reader.Yields known) (question : α → Bool) :
    (verbatimWhen question reader).Yields known := by
  intro cursor value after read
  rw [Reader.verbatimWhen] at read
  split at read
  · rename_i found rest answered
    obtain ⟨rfl, -⟩ := Prod.mk.inj (Option.some.inj read)
    exact answers _ found rest answered
  · cases read

theorem Yields.groupAt (answers : reader.Yields known) (delimiter : Delimiter) :
    (groupAt delimiter reader).Yields fun answer => known answer.1 := by
  intro cursor value after read
  rw [Reader.groupAt] at read
  split at read
  · split at read
    · split at read
      · rename_i found rest answered
        obtain ⟨rfl, -⟩ := Prod.mk.inj (Option.some.inj read)
        exact answers _ found _ answered
      · cases read
    · cases read
  · cases read

theorem Yields.group (answers : reader.Yields known) (delimiter : Delimiter) :
    (group delimiter reader).Yields known :=
  (answers.groupAt delimiter).bind fun _ holds => .pure holds

/-- Items that are read one after another have what each of them has. -/
theorem Yields.repeatBounded (answers : reader.Yields known) (question : List Tree → Bool)
    (fuel : Nat) :
    (repeatBounded question reader fuel).Yields fun items => ∀ item ∈ items, known item := by
  induction fuel with
  | zero => exact .pure nofun
  | succ fuel ih =>
    refine yields_bind fun goesOn => ?_
    cases goesOn with
    | false => exact .pure nofun
    | true =>
      refine answers.bind fun first holds => ih.bind fun others rest => ?_
      exact .pure (List.forall_mem_cons.mpr ⟨holds, rest⟩)

theorem Yields.toEnd (answers : reader.Yields known) :
    (toEnd reader).Yields fun items => ∀ item ∈ items, known item :=
  yields_bind fun _ => answers.repeatBounded _ _

end Reader

/-- Only the first parameter of a method may be the object it is called on. -/
def MethodHead.IsRegular (head : MethodHead) : Prop :=
  ∀ input ∈ head.inputs.tail, Grammar.isReceiver input = false

namespace Grammar

open Reader

variable (g : Grammar)

/-- A receiver that is not the first parameter is refused. -/
theorem yields_methodInputs (fuel : Nat) : (methodInputs g fuel).Yields fun found =>
    ∀ input ∈ found.1.tail, isReceiver input = false := by
  cases fuel with
  | zero => exact yields_refuse
  | succ fuel =>
    refine yields_bind fun isEnd => ?_
    cases isEnd with
    | true => exact .pure nofun
    | false =>
      refine yields_bind fun found => ?_
      obtain ⟨found, lexemes⟩ := found
      cases found with
      | «variadic» =>
        exact yields_bind fun _ => yields_bind fun _ => yields_bind fun _ => .pure nofun
      | input input =>
        refine yields_bind fun isEnd => ?_
        cases isEnd with
        | true => exact .pure nofun
        | false =>
          refine yields_bind fun _ => yields_bind fun others => ?_
          refine (yields_require _).bind fun _ typed => .pure ?_
          simpa using typed

theorem yields_inputList : (inputList g).Yields fun found =>
    ∀ input ∈ found.1.tail, isReceiver input = false :=
  yields_bind fun _ => (yields_methodInputs g _).bind fun _ typed => .pure typed

theorem yields_methodHead (qualifiers : Reader Unit) :
    (methodHead g qualifiers).Yields MethodHead.IsRegular := by
  refine Yields.rewritten ?_ _
  refine yields_bind fun _ => yields_bind fun _ => yields_bind fun _ => ?_
  refine ((yields_inputList g).groupAt .parenthesis).bind fun inputs typed => ?_
  exact yields_bind fun _ => yields_bind fun _ => .pure typed

theorem yields_method (attributes : List Attribute) (modifiers : List Lexeme) :
    (method g attributes modifiers).Yields fun method => method.head.IsRegular := by
  refine (yields_methodHead g _).bind fun head regular => yields_bind fun isDeclared => ?_
  cases isDeclared with
  | true => exact .pure regular
  | false => exact yields_bind fun _ => .pure regular

/-- What was read of an item is that of a regular method, if it is that of a method. -/
def IsRegularShape : ImplItemShape → Prop
  | .method method => method.head.IsRegular
  | _ => True

/-- An item of an implementation block is a regular method, if it is a method. -/
def IsRegularItem : ImplItem → Prop
  | .method method => method.head.IsRegular
  | .other _ => True

theorem yields_implItem : (implItem g).Yields IsRegularItem := by
  rw [implItem]
  refine (@Yields.verbatimWhen _ _ IsRegularShape ?_ _).capture.bind fun shape regular => ?_
  · refine yields_bind fun attributes => yields_bind fun _ => yields_bind fun trees => ?_
    refine .ite ?_ (.ite ?_ (.ite ?_ ?_))
    · refine (yields_method g _ _).bind fun method regular => ?_
      split
      · exact .pure regular
      · exact .pure trivial
    · exact yields_bind fun found => .pure (by split <;> trivial)
    · exact yields_bind fun found => .pure (by split <;> trivial)
    · exact yields_bind fun _ => yields_bind fun _ => .pure trivial
  · obtain ⟨shape, lexemes⟩ := shape
    cases shape with
    | method method => exact .pure regular
    | other => exact .pure trivial
    | «verbatim» => exact .pure trivial

theorem yields_implBlock? : (implBlock? g).Yields fun found =>
    ∀ block ∈ found, ∀ item ∈ block.items, IsRegularItem item := by
  refine Yields.rewritten ?_ _
  refine yields_bind fun _ => yields_bind fun _ => yields_bind fun _ => yields_bind fun _ => ?_
  -- what follows the generic parameters is the same whether there are any or not
  extract_lets rest
  have goesOn : ∀ generics, (rest generics).Yields fun found =>
      ∀ block ∈ found, ∀ item ∈ block.items, IsRegularItem item := by
    intro generics
    refine yields_bind fun _ => yields_bind fun _ => yields_bind fun _ => ?_
    have answers := (yields_implItem g).toEnd
    refine (@Yields.group _ _ (fun found : List Attribute × List ImplItem =>
      ∀ item ∈ found.2, IsRegularItem item) ?_ _).bind fun found regular => .ite ?_ ?_
    · exact yields_bind fun _ => answers.bind fun _ regular => .pure regular
    · exact .pure nofun
    · refine .pure fun block same => ?_
      obtain rfl := Option.some.inj same
      exact regular
  exact .ite (yields_bind fun _ => goesOn _) (yields_bind fun _ => goesOn _)

/-- The methods of an implementation block that is read are regular. -/
theorem yields_implBlock :
    (implBlock g).Yields fun block => ∀ method ∈ block.methods, method.head.IsRegular := by
  refine (yields_implBlock? g).bind fun found regular => ?_
  cases found with
  | none => exact yields_refuse
  | some block =>
    refine .pure fun method mem => ?_
    obtain ⟨item, listed, same⟩ := List.mem_filterMap.mp mem
    have regular := regular block rfl item listed
    cases item with
    | other lexemes => cases same
    | method found =>
      obtain rfl := Option.some.inj same
      exact regular

end Grammar

end ServiceDispatch.Source
