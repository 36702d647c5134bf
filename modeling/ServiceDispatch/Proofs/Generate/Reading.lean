import ServiceDispatch.Generate.ContractCode
import ServiceDispatch.Proofs.Source.Literals

/-!
# Reading generated code

A reader takes what it reads from the front of some tokens. Readers are put together from those of
single tokens, of bracketed parts and of lists; what each of them reads is stated for any tokens
that may follow, so it is put together in the same way. Nothing is said about code that a reader
refuses.
-/

namespace ServiceDispatch.Generate

open Source Code

/-- Reads from the front of some tokens. -/
abbrev Reader := StateT Code Option

variable {α β : Type}

/-- The number that a size literal denotes: decimal digits and the suffix. -/
def sizeValue? (literal : String) : Option Nat :=
  if literal.toList.dropWhile Char.isDigit = "usize".toList then
    some (Nat.ofDigitChars 10 (literal.toList.takeWhile Char.isDigit) 0)
  else none

/-- A size literal denotes the size. -/
theorem sizeValue?_repr (n : Nat) : sizeValue? (n.repr ++ "usize") = some n := by
  have digits : ∀ c ∈ Nat.toDigits 10 n, c.isDigit = true :=
    fun c mem => Nat.isDigit_of_mem_toDigits (by decide) (by decide) mem
  have suffix : "usize".toList = ['u', 's', 'i', 'z', 'e'] := by decide +kernel
  have taken : (Nat.toDigits 10 n ++ "usize".toList).takeWhile Char.isDigit =
      Nat.toDigits 10 n := by
    rw [List.takeWhile_append_of_pos digits, suffix]
    simp
  have dropped : (Nat.toDigits 10 n ++ "usize".toList).dropWhile Char.isDigit =
      "usize".toList := by
    rw [List.dropWhile_append_of_pos digits, suffix]
    rfl
  rw [sizeValue?, String.toList_append, Nat.toList_repr, if_pos dropped, taken,
    Nat.ofDigitChars_ten_toDigits]

namespace Reader

/-- Reads one token that is accepted. -/
def token (accepts : Token → Option α) : Reader α
  | [] => none
  | first :: rest => (accepts first).map fun value => (value, rest)

/-- Reads given tokens. -/
def expect (expected : Code) : Reader Unit := fun code =>
  if expected.isPrefixOf code then some ((), code.drop expected.length) else none

/-- Chooses between two readers by whether given tokens stand ahead. -/
def choice (expected : Code) (first second : Reader α) : Reader α := fun code =>
  if expected.isPrefixOf code then first code else second code

/-- Reads a word. -/
def word : Reader String := token fun
  | .word text => some text
  | _ => none

/-- Reads a string by the text that it denotes. -/
def text : Reader String := token fun
  | .literal written => stringValue? written
  | _ => none

/-- Reads a size. -/
def size : Reader Nat := token fun
  | .literal written => sizeValue? written
  | _ => none

/-- Reads what stands between brackets. -/
def enclosed (delimiter : Delimiter) (inner : Reader α) : Reader α := do
  expect [.opening delimiter]
  let value ← inner
  expect [.closing delimiter]
  return value

/-- Reads parts with commas between them; the fuel bounds their number. -/
def separated (part : Reader α) : (fuel : Nat) → Reader (List α)
  | 0 => return []
  | fuel + 1 => do
    let first ← part
    let others ← choice (mark ",") (do expect (mark ","); separated part fuel) (return [])
    return first :: others

/-- Reads a list in square brackets. -/
def list (part : Reader α) : Reader (List α) :=
  enclosed .bracket
    (choice [.closing .bracket] (return []) fun code => separated part code.length code)

/-- What is left after the bracket that closes so many brackets more than are opened. -/
def afterClosing : (depth : Nat) → Code → Option Code
  | _, [] => none
  | 0, .closing _ :: rest => some rest
  | depth + 1, .closing _ :: rest => afterClosing depth rest
  | depth, .opening _ :: rest => afterClosing (depth + 1) rest
  | depth, _ :: rest => afterClosing depth rest

/-- Passes over everything up to the end of the enclosing brackets. -/
def skip : Reader Unit := fun code => (afterClosing 0 code).map fun rest => ((), rest)

theorem run_bind (first : Reader α) (second : α → Reader β) (code : Code) :
    (first >>= second) code = (first code).bind fun found => second found.1 found.2 := by
  change Option.bind (first code) (fun found => second found.1 found.2) = _
  rfl

theorem run_pure (value : α) (code : Code) : (pure value : Reader α) code = some (value, code) :=
  rfl

/-- Some tokens are read as a value, whatever follows them. -/
def Reads (reader : Reader α) (code : Code) (value : α) : Prop :=
  ∀ rest, reader (code ++ rest) = some (value, rest)

theorem Reads.bind {first : Reader α} {second : α → Reader β} {code code' : Code} {a : α} {b : β}
    (reads : Reads first code a) (reads' : Reads (second a) code' b) :
    Reads (first >>= second) (code ++ code') b := by
  intro rest
  rw [run_bind, List.append_assoc, reads, Option.bind_some, reads']

theorem Reads.pure (value : α) : Reads (pure value) [] value := fun _ => rfl

/-- The last part of some tokens is read. -/
theorem Reads.last {first : Reader α} {result : α → β} {code : Code} {a : α}
    (reads : Reads first code a) :
    Reads (first >>= fun found => Pure.pure (result found)) code (result a) := by
  intro rest
  rw [run_bind, reads, Option.bind_some, run_pure]

theorem Reads.choose {expected code : Code} {first second : Reader α} {value : α}
    (starts : ∀ rest, expected.isPrefixOf (code ++ rest) = true) (reads : Reads first code value) :
    Reads (choice expected first second) code value := by
  intro rest
  rw [choice, starts, if_pos rfl, reads]

theorem Reads.choose_other {expected code : Code} {first second : Reader α} {value : α}
    (other : ∀ rest, expected.isPrefixOf (code ++ rest) = false)
    (reads : Reads second code value) :
    Reads (choice expected first second) code value := by
  intro rest
  rw [choice, other, if_neg Bool.false_ne_true, reads]

theorem Reads.of_eq {reader : Reader α} {code code' : Code} {value : α}
    (reads : Reads reader code value) (same : code' = code) : Reads reader code' value :=
  same ▸ reads

theorem reads_expect (expected : Code) : Reads (expect expected) expected () := by
  intro rest
  simp [expect]

theorem reads_word (text : String) : Reads word (Code.word text) text := fun _ => rfl

theorem reads_text (value : String) : Reads text (Code.text value) value := by
  intro rest
  change (stringValue? (Text.literal value)).map _ = _
  rw [stringValue?_literal]
  rfl

theorem reads_size (n : Nat) : Reads size (count n) n := by
  intro rest
  change (sizeValue? (n.repr ++ "usize")).map _ = _
  rw [sizeValue?_repr]
  rfl

theorem Reads.enclosed {inner : Reader α} {code : Code} {value : α} (reads : Reads inner code value)
    (delimiter : Delimiter) :
    Reads (enclosed delimiter inner) (Code.enclosed delimiter code) value := by
  refine Reads.of_eq ((reads_expect _).bind (reads.bind ((reads_expect _).bind (.pure _)))) ?_
  simp [Code.enclosed]

/-- A part of a list starts with something else than the end of the list. -/
def IsPart (code : Code) : Prop := ∃ first rest, code = first :: rest ∧ first ≠ .closing .bracket

theorem commas_cons_cons (first second : Code) (rest : List Code) :
    commas (first :: second :: rest) = first ++ (mark "," ++ commas (second :: rest)) := by
  simp [commas, List.intersperse]

theorem commas_singleton (code : Code) : commas [code] = code := by simp [commas]

theorem length_le_commas {codes : List Code} (parts : ∀ code ∈ codes, IsPart code) :
    codes.length ≤ (commas codes).length := by
  induction codes with
  | nil => exact Nat.zero_le _
  | cons code rest ih =>
    obtain ⟨here, later⟩ := List.forall_mem_cons.mp parts
    obtain ⟨first, tail, rfl, -⟩ := here
    cases rest with
    | nil => simp [commas]
    | cons second rest =>
      have more := ih later
      rw [commas_cons_cons]
      simp only [List.length_append, List.length_cons] at more ⊢
      omega

variable {part : Reader α} {code : β → Code} {value : β → α} {items : List β}

/-- Parts between commas are read one after another. -/
theorem run_separated (reads : ∀ item ∈ items, Reads part (code item) (value item))
    (some_part : items ≠ []) {fuel : Nat} (enough : items.length ≤ fuel) {rest : Code}
    (stops : (mark ",").isPrefixOf rest = false) :
    separated part fuel (commas (items.map code) ++ rest) = some (items.map value, rest) := by
  induction items generalizing fuel with
  | nil => exact absurd rfl some_part
  | cons item later ih =>
    obtain ⟨fuel, rfl⟩ :=
      Nat.exists_eq_succ_of_ne_zero (Nat.ne_of_gt (Nat.lt_of_lt_of_le (Nat.succ_pos _) enough))
    obtain ⟨here, others⟩ := List.forall_mem_cons.mp reads
    cases later with
    | nil =>
      simp only [List.map_cons, List.map_nil, commas_singleton, separated, run_bind, here rest,
        Option.bind_some, choice, stops, Bool.false_eq_true, if_false, run_pure]
    | cons second later =>
      have further : (mark ",").isPrefixOf
          (mark "," ++ (commas ((second :: later).map code) ++ rest)) = true := by simp
      have rest_read := ih others (List.cons_ne_nil _ _) (Nat.le_of_succ_le_succ enough)
      rw [List.map_cons] at rest_read further
      simp only [List.map_cons, commas_cons_cons, List.append_assoc, separated, run_bind, here _,
        Option.bind_some, choice, further, if_true, reads_expect _ _, rest_read, run_pure]

/-- A list in square brackets is read part by part. -/
theorem reads_list (reads : ∀ item ∈ items, Reads part (code item) (value item))
    (parts : ∀ item ∈ items, IsPart (code item)) :
    Reads (list part) (brackets (commas (items.map code))) (items.map value) := by
  intro rest
  have shape : brackets (commas (items.map code)) ++ rest =
      [.opening .bracket] ++ (commas (items.map code) ++ ([.closing .bracket] ++ rest)) := by
    simp [brackets, Code.enclosed]
  rw [shape, list, Reader.enclosed]
  cases items with
  | nil =>
    simp only [run_bind, reads_expect _ _, Option.bind_some, choice]
    rfl
  | cons item later =>
    have starts : [Token.closing .bracket].isPrefixOf
        (commas ((item :: later).map code) ++ ([.closing .bracket] ++ rest)) = false := by
      obtain ⟨first, tail, starts, isPart⟩ := parts item List.mem_cons_self
      cases later <;> simp [commas, List.isPrefixOf, starts, Ne.symm isPart]
    have enough : (item :: later).length ≤
        (commas ((item :: later).map code) ++ ([Token.closing .bracket] ++ rest)).length := by
      have few : ((item :: later).map code).length ≤ (commas ((item :: later).map code)).length :=
        length_le_commas (by simpa using parts)
      rw [List.length_map] at few
      rw [List.length_append]
      omega
    have stops : (mark ",").isPrefixOf ([Token.closing .bracket] ++ rest) = false := rfl
    have read := run_separated reads (List.cons_ne_nil _ _) enough stops
    simp only [run_bind, reads_expect _ _, Option.bind_some, choice, starts, Bool.false_eq_true,
      if_false, read, run_pure]

end Reader

end ServiceDispatch.Generate
