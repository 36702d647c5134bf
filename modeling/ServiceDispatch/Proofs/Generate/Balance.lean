import ServiceDispatch.Proofs.Generate.Reading

/-!
# Matching brackets

The brackets of generated code match, provided that those of the types in it do, so a reader can
pass over the inside of a bracket without looking into it.
-/

namespace ServiceDispatch.Generate

open Source Code

/-- Whether a token is a bracket. -/
def isBracket : Token → Bool
  | .opening _ | .closing _ => true
  | _ => false

/-- Every bracket of some tokens has its mate among them. -/
inductive Balanced : Code → Prop where
  /-- There are no tokens. -/
  | nil : Balanced []
  /-- Another token stands before balanced ones. -/
  | plain {token : Token} {rest : Code} (other : isBracket token = false)
      (balanced : Balanced rest) : Balanced (token :: rest)
  /-- A pair of brackets around balanced tokens stands before balanced ones. -/
  | group (delimiter : Delimiter) {inner rest : Code} (inside : Balanced inner)
      (balanced : Balanced rest) : Balanced (enclosed delimiter inner ++ rest)

namespace Balanced

attribute [simp] nil

theorem append {first second : Code} (balanced : Balanced first) (balanced' : Balanced second) :
    Balanced (first ++ second) := by
  induction balanced with
  | nil => exact balanced'
  | plain other _ ih => exact .plain other ih
  | group delimiter inside _ _ ih =>
    rw [List.append_assoc]
    exact .group delimiter inside ih

theorem enclosed {inner : Code} (inside : Balanced inner) (delimiter : Delimiter) :
    Balanced (Code.enclosed delimiter inner) := by
  rw [← List.append_nil (Code.enclosed delimiter inner)]
  exact .group delimiter inside .nil

theorem choice {condition : Prop} [Decidable condition] {first second : Code}
    (balanced : Balanced first) (balanced' : Balanced second) :
    Balanced (if condition then first else second) := by
  split
  · exact balanced
  · exact balanced'

theorem of_plain {code : Code} (others : ∀ token ∈ code, isBracket token = false) :
    Balanced code := by
  induction code with
  | nil => exact .nil
  | cons token rest ih =>
    obtain ⟨other, later⟩ := List.forall_mem_cons.mp others
    exact .plain other (ih later)

theorem flatten {codes : List Code} (each : ∀ code ∈ codes, Balanced code) :
    Balanced codes.flatten := by
  induction codes with
  | nil => exact .nil
  | cons code rest ih =>
    obtain ⟨here, later⟩ := List.forall_mem_cons.mp each
    exact here.append (ih later)

end Balanced

namespace Reader

/-- What stands after the end of the enclosing brackets is found behind balanced tokens as well. -/
theorem afterClosing_append {code : Code} (balanced : Balanced code) (depth : Nat) (rest : Code) :
    afterClosing depth (code ++ rest) = afterClosing depth rest := by
  induction balanced generalizing depth rest with
  | nil => rfl
  | @plain token _ other _ ih =>
    cases token with
    | opening | closing => cases other
    | _ => exact (by rw [List.cons_append, afterClosing, ih] <;> simp)
  | @group delimiter inner later _ _ ihInner ih =>
    have shape : Code.enclosed delimiter inner ++ later ++ rest =
        .opening delimiter :: (inner ++ (.closing delimiter :: (later ++ rest))) := by
      simp [Code.enclosed]
    rw [shape, afterClosing, ihInner, afterClosing, ih]

/-- The inside of a pair of brackets is passed over with the bracket that ends it. -/
theorem reads_skip {code : Code} (balanced : Balanced code) (delimiter : Delimiter) :
    Reads skip (code ++ [.closing delimiter]) () := by
  intro rest
  rw [skip, List.append_assoc, afterClosing_append balanced]
  rfl

end Reader

namespace Code

@[simp] theorem balanced_word (text : String) : Balanced (word text) := .plain rfl .nil

@[simp] theorem balanced_words (texts : List String) : Balanced (words texts) :=
  .of_plain fun token mem => by
    obtain ⟨text, -, rfl⟩ := List.mem_map.mp mem
    rfl

@[simp] theorem balanced_text (value : String) : Balanced (text value) := .plain rfl .nil

@[simp] theorem balanced_count (n : Nat) : Balanced (count n) := .plain rfl .nil

theorem isBracket_ofChars (span : Span) (chars : List Char) :
    ∀ token ∈ Lexeme.tokens (Lexeme.ofChars span chars), isBracket token = false := by
  fun_induction Lexeme.ofChars span chars with
  | case1 => simp [Lexeme.tokens]
  | case2 c => simp [Lexeme.tokens, isBracket]
  | case3 c rest _ ih => exact List.forall_mem_cons.mpr ⟨rfl, ih⟩

@[simp] theorem balanced_mark (text : String) : Balanced (mark text) :=
  .of_plain (isBracket_ofChars _ _)

@[simp] theorem balanced_path (names : List String) : Balanced (path names) := by
  have separator : ∀ token ∈ Lexeme.tokens (Lexeme.ofMark "::" .nowhere), isBracket token = false :=
    isBracket_ofChars _ _
  have inside : ∀ names : List Name,
      ∀ token ∈ Lexeme.tokens (NamePath.namesLexemes names), isBracket token = false := by
    intro names
    fun_induction NamePath.namesLexemes names with
    | case1 => simp [Lexeme.tokens]
    | case2 name => simp [Lexeme.tokens, isBracket, Name.lexeme]
    | case3 name rest _ ih =>
      simp only [Lexeme.tokens, List.map_append, List.map_cons, List.forall_mem_append,
        List.forall_mem_cons] at separator ih ⊢
      exact ⟨⟨rfl, separator⟩, ih⟩
  refine .of_plain ?_
  simp only [path, globalNames, NamePath.lexemes, Option.map_some, Option.getD_some, Lexeme.tokens,
    List.map_append, List.forall_mem_append]
  exact ⟨separator, inside _⟩

@[simp] theorem balanced_facade (names : List String) : Balanced (facade names) := balanced_path _

theorem balanced_commas {codes : List Code} (each : ∀ code ∈ codes, Balanced code) :
    Balanced (commas codes) := by
  induction codes with
  | nil => exact .nil
  | cons code rest ih =>
    obtain ⟨here, later⟩ := List.forall_mem_cons.mp each
    cases rest with
    | nil =>
      rw [Reader.commas_singleton]
      exact here
    | cons second rest =>
      rw [Reader.commas_cons_cons]
      exact here.append ((balanced_mark ",").append (ih later))

variable {code : Code}

@[simp] theorem balanced_parens (inside : Balanced code) : Balanced (parens code) :=
  inside.enclosed _

@[simp] theorem balanced_braces (inside : Balanced code) : Balanced (braces code) :=
  inside.enclosed _

@[simp] theorem balanced_brackets (inside : Balanced code) : Balanced (brackets code) :=
  inside.enclosed _

@[simp] theorem balanced_turbofish (inside : Balanced code) : Balanced (turbofish code) :=
  ((((balanced_mark _).append (balanced_mark _)).append inside).append (balanced_mark _))

@[simp] theorem balanced_boxed (inside : Balanced code) : Balanced (boxed code) := by
  unfold boxed
  repeat' with_reducible apply Balanced.append
  all_goals simp [inside]

end Code

/-- What holds of the types of parameters holds of the types of their bindings. -/
theorem forall_type_ofParameters {P : Ty → Prop} {parameters : List (Ty × Direction)}
    (each : ∀ parameter ∈ parameters, P parameter.1) (slot : Nat) :
    ∀ binding ∈ Binding.ofParameters slot parameters, P binding.type := by
  induction parameters generalizing slot with
  | nil => intro binding mem; cases mem
  | cons parameter rest ih =>
    obtain ⟨here, later⟩ := List.forall_mem_cons.mp each
    unfold Binding.ofParameters
    split
    · exact List.forall_mem_cons.mpr ⟨here, ih later _⟩
    · exact List.forall_mem_cons.mpr ⟨here, ih later _⟩

theorem balanced_bindingCode (index : Nat) {binding : Binding Ty}
    (balanced : Balanced binding.type.tokens) : Balanced (bindingCode index binding) := by
  unfold bindingCode
  cases binding.source
  repeat' first | with_reducible apply Balanced.append | with_reducible apply Balanced.choice
  all_goals simp [balanced]

theorem balanced_argumentCode (index : Nat) (binding : Binding Ty) :
    Balanced (argumentCode index binding) := by
  unfold argumentCode
  repeat' first | with_reducible apply Balanced.append | with_reducible apply Balanced.choice
  all_goals simp

theorem balanced_outputCode (index : Nat) (binding : Binding Ty) :
    ∀ code ∈ outputCode index binding, Balanced code := by
  intro code mem
  unfold outputCode at mem
  split at mem
  · obtain rfl := List.mem_singleton.mp mem
    repeat' with_reducible apply Balanced.append
    all_goals simp
  · cases mem

theorem balanced_callCode (method : Name) (plan : AdapterPlan Ty) :
    Balanced (callCode method plan) := by
  have passed : Balanced (commas (plan.bindings.mapIdx argumentCode)) := by
    refine balanced_commas fun code mem => ?_
    obtain ⟨index, _, rfl⟩ := List.mem_mapIdx.mp mem
    exact balanced_argumentCode _ _
  unfold callCode
  repeat' first | with_reducible apply Balanced.append | with_reducible apply Balanced.choice
  all_goals simp [passed]

theorem balanced_returnCode (plan : AdapterPlan Ty) : Balanced (returnCode plan) := by
  have value : Balanced (boxed (word "__opbind_return") ++ word "as" ++ facade ["Value"]) :=
    ((balanced_boxed (balanced_word _)).append (balanced_word _)).append (balanced_facade _)
  unfold returnCode
  exact .choice ((balanced_path _).append (balanced_parens value)) (balanced_path _)

theorem balanced_outputsCode (plan : AdapterPlan Ty) : Balanced (outputsCode plan) := by
  have listed : Balanced (commas (plan.bindings.mapIdx outputCode).flatten) := by
    refine balanced_commas fun code mem => ?_
    obtain ⟨outputs, found, mem⟩ := List.mem_flatten.mp mem
    obtain ⟨index, _, rfl⟩ := List.mem_mapIdx.mp found
    exact balanced_outputCode _ _ code mem
  unfold outputsCode
  dsimp only
  repeat' first | with_reducible apply Balanced.append | with_reducible apply Balanced.choice
  all_goals simp [listed]

theorem balanced_invokeCode (method : Name) {plan : AdapterPlan Ty}
    (balanced : ∀ binding ∈ plan.bindings, Balanced binding.type.tokens) :
    Balanced (invokeCode method plan) := by
  have bound : Balanced (plan.bindings.mapIdx bindingCode).flatten := by
    refine .flatten fun code mem => ?_
    obtain ⟨index, inside, rfl⟩ := List.mem_mapIdx.mp mem
    exact balanced_bindingCode _ (balanced _ (List.getElem_mem inside))
  have call : Balanced (callStatement method plan) := by
    unfold callStatement
    repeat' first | with_reducible apply Balanced.append | with_reducible apply Balanced.choice
    all_goals simp [balanced_callCode]
  have outcome : Balanced (commas [returnCode plan, outputsCode plan]) :=
    balanced_commas (by simp [balanced_returnCode, balanced_outputsCode])
  unfold invokeCode
  exact ((bound.append call).append (balanced_path _)).append
    (balanced_parens ((balanced_facade _).append (balanced_parens outcome)))

end ServiceDispatch.Generate
