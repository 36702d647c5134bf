import Mathlib.Data.List.Basic
import ServiceDispatch.CanonicalKey

/-!
# Reading canonical keys back

A key is one flat text: separators stand between its entries as well as inside nested type names,
and directions are plain words. Its parts are determined all the same, as long as the brackets of
each type name are balanced and its commas stand inside them. Which texts normalization yields is
not covered here.
-/

namespace ServiceDispatch

namespace CanonicalKey

/-- The brackets that a type name opens. -/
def openers : List Char := ['(', '[', '{', '<']

/-- The brackets that a type name closes. -/
def closers : List Char := [')', ']', '}', '>']

/-- Where a scan of brackets stands. -/
structure Nesting where
  /-- Number of brackets that are open. -/
  depth : Nat
  /-- Whether the last character was a dash, after which `>` ends an arrow. -/
  afterDash : Bool
  deriving DecidableEq, Repr

/-- Outside of all brackets, at the start of a text. -/
def Nesting.outside : Nesting := ⟨0, false⟩

/-- Passes one character; a bracket that closes nothing ends the scan. Kinds of brackets are not
told apart, so that more texts count as balanced than those whose brackets match in kind. -/
def Nesting.pass (nesting : Nesting) (c : Char) : Option Nesting :=
  if c ∈ openers then some ⟨nesting.depth + 1, false⟩
  else if c ∈ closers ∧ ¬(c = '>' ∧ nesting.afterDash) then
    if nesting.depth = 0 then none else some ⟨nesting.depth - 1, false⟩
  else some ⟨nesting.depth, c = '-'⟩

/-- Number of open brackets after a text, if none of its brackets closes nothing. -/
def depthAfter (text : List Char) : Option Nat :=
  (text.foldlM Nesting.pass .outside).map Nesting.depth

/-- Every bracket of a text is closed in it. -/
def IsBalanced (text : List Char) : Prop := depthAfter text = some 0

/-- Every comma of a text stands inside brackets. -/
def HasInnerCommas (text : List Char) : Prop :=
  ∀ place < text.length, text[place]? = some ',' → depthAfter (text.take place) ≠ some 0

instance (text : List Char) : Decidable (IsBalanced text) :=
  inferInstanceAs (Decidable (_ = _))

instance (text : List Char) : Decidable (HasInnerCommas text) :=
  inferInstanceAs (Decidable (∀ place < _, _ → _))

/-- A run of word characters. -/
def IsWord (text : List Char) : Prop := ∀ c ∈ text, TypeName.isWordChar c = true

/-- Words joined by dots. -/
def IsWordPath (text : List Char) : Prop :=
  ∃ words : List (List Char), (∀ word ∈ words, IsWord word) ∧ text = TypeName.joinSegments words

/-- A type name that can be told from its neighbours and from the word of its direction. -/
structure IsPlainType (text : List Char) : Prop where
  /-- There is a type name. -/
  ne_nil : text ≠ []
  /-- Its brackets are balanced. -/
  balanced : IsBalanced text
  /-- Its commas stand inside brackets. -/
  innerCommas : HasInnerCommas text
  /-- It does not start with the word of output parameters. -/
  not_out : ¬ Direction.output.keyword.toList <+: text
  /-- It does not start with the word of parameters that flow both ways. -/
  not_inout : ¬ Direction.inout.keyword.toList <+: text

instance (text : List Char) : Decidable (IsWord text) :=
  decidable_of_iff (text.all TypeName.isWordChar = true) List.all_eq_true

instance (text : List Char) : Decidable (IsPlainType text) :=
  decidable_of_iff
    (text ≠ [] ∧ IsBalanced text ∧ HasInnerCommas text ∧
      ¬ Direction.output.keyword.toList <+: text ∧ ¬ Direction.inout.keyword.toList <+: text)
    ⟨fun ⟨h₁, h₂, h₃, h₄, h₅⟩ => ⟨h₁, h₂, h₃, h₄, h₅⟩,
      fun plain => ⟨plain.1, plain.2, plain.3, plain.4, plain.5⟩⟩

/-- A signature whose key can be read back. -/
structure IsReadable (signature : Signature) : Prop where
  /-- The method is a word. -/
  method : IsWord signature.method.toList
  /-- The declaring type is a path. -/
  declaringType : IsWordPath (TypeName.normalize signature.declaringType).toList
  /-- The type of every parameter is plain. -/
  parameters : ∀ parameter ∈ signature.parameters,
    IsPlainType (TypeName.normalize parameter.typeName).toList

theorem isWord_notMem {text : List Char} {c : Char} (word : IsWord text)
    (other : TypeName.isWordChar c = false) : c ∉ text := by
  intro found
  rw [word c found] at other
  contradiction

/-- The characters of a path are those of its words and dots. -/
theorem mem_joinSegments {c : Char} {words : List (List Char)}
    (found : c ∈ TypeName.joinSegments words) : c = '.' ∨ ∃ word ∈ words, c ∈ word := by
  induction words with
  | nil => simp [TypeName.joinSegments] at found
  | cons word rest ih =>
    cases rest with
    | nil => exact Or.inr ⟨word, by simp, by simpa [TypeName.joinSegments] using found⟩
    | cons next rest =>
      rw [TypeName.joinSegments, List.mem_append, List.mem_cons] at found
      · rcases found with here | dot | later
        · exact Or.inr ⟨word, by simp, here⟩
        · exact Or.inl dot
        · obtain dot | ⟨other, member, inside⟩ := ih later
          · exact Or.inl dot
          · exact Or.inr ⟨other, List.mem_cons_of_mem _ member, inside⟩
      · simp

/-- A path has no characters but those of words and dots. -/
theorem isWordPath_notMem {text : List Char} {c : Char} (path : IsWordPath text)
    (other : TypeName.isWordChar c = false) (dot : c ≠ '.') : c ∉ text := by
  obtain ⟨words, each, rfl⟩ := path
  intro found
  obtain here | ⟨word, member, inside⟩ := mem_joinSegments found
  · exact dot here
  · exact isWord_notMem (each word member) other inside

/-- The characters of a parameter's entry. -/
def entryChars (parameter : Parameter) : List Char :=
  parameter.direction.keyword.toList ++ (TypeName.normalize parameter.typeName).toList

theorem toList_parameterEntry (parameter : Parameter) :
    (parameterEntry parameter).toList = entryChars parameter := by
  simp [parameterEntry, entryChars]

/-- Passing a direction's word leaves a scan outside of all brackets. -/
theorem foldlM_keyword (direction : Direction) :
    direction.keyword.toList.foldlM Nesting.pass .outside = some .outside := by
  cases direction <;> decide

/-- The word of a direction does not change the depth of what follows it. -/
theorem depthAfter_keyword (direction : Direction) (text : List Char) :
    depthAfter (direction.keyword.toList ++ text) = depthAfter text := by
  rw [depthAfter, List.foldlM_append, foldlM_keyword]
  rfl

theorem comma_notMem_keyword (direction : Direction) : ',' ∉ direction.keyword.toList := by
  cases direction <;> decide

/-- An entry is balanced as its type name is. -/
theorem isBalanced_entryChars {parameter : Parameter}
    (plain : IsPlainType (TypeName.normalize parameter.typeName).toList) :
    IsBalanced (entryChars parameter) := by
  rw [IsBalanced, entryChars, depthAfter_keyword]
  exact plain.balanced

/-- The commas of an entry are those of its type name. -/
theorem hasInnerCommas_entryChars {parameter : Parameter}
    (plain : IsPlainType (TypeName.normalize parameter.typeName).toList) :
    HasInnerCommas (entryChars parameter) := by
  intro place bound comma
  rw [entryChars] at bound comma
  have behind : parameter.direction.keyword.toList.length ≤ place := by
    by_contra before
    rw [List.getElem?_append_left (by omega)] at comma
    exact comma_notMem_keyword _ (List.mem_of_getElem? comma)
  rw [List.getElem?_append_right behind] at comma
  rw [List.length_append] at bound
  rw [entryChars, List.take_append, List.take_of_length_le behind, depthAfter_keyword]
  exact plain.innerCommas _ (by omega) comma

/-- An entry with inner commas does not go on where a balanced one ends: the comma that follows
there would stand outside of all brackets. -/
theorem length_le_of_append_eq {first second after after' : List Char}
    (balanced : IsBalanced first) (commas : HasInnerCommas second)
    (ends : after = [] ∨ after.head? = some ',') (same : first ++ after = second ++ after') :
    second.length ≤ first.length := by
  by_contra longer
  have start : second.take first.length = first := by
    have taken := congrArg (List.take first.length) same
    rw [List.take_left, List.take_append_of_le_length (by omega)] at taken
    exact taken.symm
  have comma : second[first.length]? = some ',' := by
    have found := congrArg (·[first.length]?) same
    simp only [List.getElem?_append_right (Nat.le_refl _), Nat.sub_self] at found
    rw [List.getElem?_append_left (by omega)] at found
    rw [← found]
    obtain rfl | head := ends
    · have lengths := congrArg List.length same
      simp only [List.append_nil, List.length_append] at lengths
      omega
    · rwa [List.head?_eq_getElem?] at head
  refine commas first.length (by omega) comma ?_
  rw [start]
  exact balanced

/-- Two balanced texts with inner commas are equal if each ends where a comma or nothing follows. -/
theorem append_entries_inj {first second after after' : List Char}
    (balanced : IsBalanced first) (balanced' : IsBalanced second)
    (commas : HasInnerCommas first) (commas' : HasInnerCommas second)
    (ends : after = [] ∨ after.head? = some ',') (ends' : after' = [] ∨ after'.head? = some ',')
    (same : first ++ after = second ++ after') : first = second ∧ after = after' := by
  have lengths : first.length = second.length :=
    Nat.le_antisymm (length_le_of_append_eq balanced' commas ends' same.symm)
      (length_le_of_append_eq balanced commas' ends same)
  exact List.append_inj same lengths

/-- The text of entries that come after another one. -/
def laterEntries : List (List Char) → List Char
  | [] => []
  | entry :: rest => ',' :: ' ' :: entry ++ laterEntries rest

theorem laterEntries_ends (entries : List (List Char)) :
    laterEntries entries = [] ∨ (laterEntries entries).head? = some ',' := by
  cases entries with
  | nil => exact Or.inl rfl
  | cons entry rest => exact Or.inr rfl

/-- The first entry stands for itself and the others follow it. -/
theorem intercalate_entries (entry : List Char) (rest : List (List Char)) :
    ", ".toList.intercalate (entry :: rest) = entry ++ laterEntries rest := by
  induction rest generalizing entry with
  | nil => simp [laterEntries]
  | cons next rest ih =>
    rw [List.intercalate_cons_of_ne_nil (by simp), ih, laterEntries]
    simp

/-- Balanced entries with inner commas can be read back from their joined text. -/
theorem laterEntries_inj {entries entries' : List (List Char)}
    (each : ∀ entry ∈ entries, IsBalanced entry ∧ HasInnerCommas entry)
    (each' : ∀ entry ∈ entries', IsBalanced entry ∧ HasInnerCommas entry)
    (same : laterEntries entries = laterEntries entries') : entries = entries' := by
  induction entries generalizing entries' with
  | nil =>
    cases entries' with
    | nil => rfl
    | cons entry rest => simp [laterEntries] at same
  | cons entry rest ih =>
    cases entries' with
    | nil => simp [laterEntries] at same
    | cons entry' rest' =>
      simp only [laterEntries, List.cons_append, List.cons.injEq, true_and] at same
      obtain ⟨balanced, commas⟩ := each entry (by simp)
      obtain ⟨balanced', commas'⟩ := each' entry' (by simp)
      obtain ⟨rfl, others⟩ := append_entries_inj balanced balanced' commas commas'
        (laterEntries_ends rest) (laterEntries_ends rest') same
      rw [ih (fun entry member => each entry (by simp [member]))
        (fun entry member => each' entry (by simp [member])) others]

/-- The entries of parameters can be read back from their joined text. -/
theorem intercalate_entries_inj {entries entries' : List (List Char)}
    (each : ∀ entry ∈ entries, entry ≠ [] ∧ IsBalanced entry ∧ HasInnerCommas entry)
    (each' : ∀ entry ∈ entries', entry ≠ [] ∧ IsBalanced entry ∧ HasInnerCommas entry)
    (same : ", ".toList.intercalate entries = ", ".toList.intercalate entries') :
    entries = entries' := by
  cases entries with
  | nil =>
    cases entries' with
    | nil => rfl
    | cons entry rest =>
      rw [intercalate_entries, List.intercalate_nil, eq_comm, List.append_eq_nil_iff] at same
      exact absurd same.1 (each' entry (by simp)).1
  | cons entry rest =>
    cases entries' with
    | nil =>
      rw [intercalate_entries, List.intercalate_nil, List.append_eq_nil_iff] at same
      exact absurd same.1 (each entry (by simp)).1
    | cons entry' rest' =>
      rw [intercalate_entries, intercalate_entries] at same
      obtain ⟨-, balanced, commas⟩ := each entry (by simp)
      obtain ⟨-, balanced', commas'⟩ := each' entry' (by simp)
      obtain ⟨rfl, others⟩ := append_entries_inj balanced balanced' commas commas'
        (laterEntries_ends rest) (laterEntries_ends rest') same
      rw [laterEntries_inj (fun entry member => (each entry (by simp [member])).2)
        (fun entry member => (each' entry (by simp [member])).2) others]

/-- The direction and the type name can be told apart in an entry. -/
theorem entryChars_inj {first second : Parameter}
    (plain : IsPlainType (TypeName.normalize first.typeName).toList)
    (plain' : IsPlainType (TypeName.normalize second.typeName).toList)
    (same : entryChars first = entryChars second) :
    first.direction = second.direction ∧
      TypeName.normalize first.typeName = TypeName.normalize second.typeName := by
  obtain ⟨-, -, -, not_out, not_inout⟩ := plain
  obtain ⟨-, -, -, not_out', not_inout'⟩ := plain'
  rw [entryChars, entryChars] at same
  cases this : first.direction <;> cases that : second.direction <;> rw [this, that] at same
  case input.input => exact ⟨rfl, String.toList_injective same⟩
  case output.output => exact ⟨rfl, String.toList_injective (List.append_cancel_left same)⟩
  case inout.inout => exact ⟨rfl, String.toList_injective (List.append_cancel_left same)⟩
  case input.output => exact absurd ⟨_, same.symm⟩ not_out
  case input.inout => exact absurd ⟨_, same.symm⟩ not_inout
  case output.input => exact absurd ⟨_, same⟩ not_out'
  case inout.input => exact absurd ⟨_, same⟩ not_inout'
  case output.inout => simp [Direction.keyword] at same
  case inout.output => simp [Direction.keyword] at same

/-- The characters of a key. -/
theorem toList_ofSignature (signature : Signature) :
    (ofSignature signature).text.toList =
      ((TypeName.normalize signature.declaringType).toList ++ '.' :: signature.method.toList) ++
        '(' :: (", ".toList.intercalate (signature.parameters.map entryChars) ++ [')']) := by
  simp [ofSignature, Function.comp_def, toList_parameterEntry]

/-- What stands before the parameters of a readable signature has no parenthesis. -/
theorem parenthesis_notMem_head {signature : Signature} (readable : IsReadable signature) :
    '(' ∉ (TypeName.normalize signature.declaringType).toList ++
      '.' :: signature.method.toList := by
  have path : '(' ∉ (TypeName.normalize signature.declaringType).toList :=
    isWordPath_notMem readable.declaringType (by decide) (by decide)
  have word : '(' ∉ signature.method.toList := isWord_notMem readable.method (by decide)
  simp [path, word]

/-- A text is cut in one way at the first place of a character. -/
theorem append_cons_inj {c : Char} {before before' after after' : List Char} (first : c ∉ before)
    (first' : c ∉ before') (same : before ++ c :: after = before' ++ c :: after') :
    before = before' ∧ after = after' := by
  obtain ⟨more, longer, rest⟩ | ⟨more, longer, rest⟩ := List.append_eq_append_iff.mp same
  · cases more with
    | nil => simp_all
    | cons head tail =>
      obtain rfl : c = head := (List.cons.inj rest).1
      exact absurd (by simp [longer]) first'
  · cases more with
    | nil => simp_all
    | cons head tail =>
      obtain rfl : c = head := (List.cons.inj rest).1
      exact absurd (by simp [longer]) first

/-- The declaring type ends at the last dot before the method. -/
theorem append_method_inj {type type' method method' : List Char} (word : IsWord method)
    (word' : IsWord method') (same : type ++ '.' :: method = type' ++ '.' :: method') :
    type = type' ∧ method = method' := by
  have dot : '.' ∉ method.reverse := by
    rw [List.mem_reverse]
    exact isWord_notMem word (by decide)
  have dot' : '.' ∉ method'.reverse := by
    rw [List.mem_reverse]
    exact isWord_notMem word' (by decide)
  have reversed :
      method.reverse ++ '.' :: type.reverse = method'.reverse ++ '.' :: type'.reverse := by
    simpa using congrArg List.reverse same
  obtain ⟨methods, types⟩ := append_cons_inj dot dot' reversed
  exact ⟨List.reverse_injective types, List.reverse_injective methods⟩

/-- The entries of a readable signature are such as can be read back. -/
theorem entries_of_isReadable {signature : Signature} (readable : IsReadable signature) :
    ∀ entry ∈ signature.parameters.map entryChars,
      entry ≠ [] ∧ IsBalanced entry ∧ HasInnerCommas entry := by
  intro entry member
  obtain ⟨parameter, listed, rfl⟩ := List.mem_map.mp member
  have plain := readable.parameters parameter listed
  refine ⟨?_, isBalanced_entryChars plain, hasInnerCommas_entryChars plain⟩
  simp [entryChars, plain.ne_nil]

/-- Two readable signatures have one key exactly if they agree in the normal form of the declaring
type, in the method, and in the directions and the normal forms of the types of their parameters.
Parameter names, positions and return shapes play no part. -/
theorem ofSignature_eq_iff {first second : Signature} (readable : IsReadable first)
    (readable' : IsReadable second) :
    ofSignature first = ofSignature second ↔
      TypeName.normalize first.declaringType = TypeName.normalize second.declaringType ∧
        first.method = second.method ∧
        first.parameters.length = second.parameters.length ∧
        ∀ (place : Nat) (parameter parameter' : Parameter),
          first.parameters[place]? = some parameter →
          second.parameters[place]? = some parameter' →
            parameter.direction = parameter'.direction ∧
              TypeName.normalize parameter.typeName = TypeName.normalize parameter'.typeName := by
  constructor
  · intro same
    have chars := congrArg (fun key => key.text.toList) same
    simp only [toList_ofSignature] at chars
    obtain ⟨heads, tails⟩ := append_cons_inj (parenthesis_notMem_head readable)
      (parenthesis_notMem_head readable') chars
    obtain ⟨types, methods⟩ := append_method_inj readable.method readable'.method heads
    have entries := intercalate_entries_inj (entries_of_isReadable readable)
      (entries_of_isReadable readable') (List.append_cancel_right tails)
    refine ⟨String.toList_injective types, String.toList_injective methods, ?_, ?_⟩
    · simpa using congrArg List.length entries
    · intro place parameter parameter' here here'
      have entry := congrArg (·[place]?) entries
      simp only [List.getElem?_map, here, here', Option.map_some, Option.some.injEq] at entry
      exact entryChars_inj (readable.parameters _ (List.mem_of_getElem? here))
        (readable'.parameters _ (List.mem_of_getElem? here')) entry
  · rintro ⟨types, methods, lengths, parameters⟩
    have entries : first.parameters.map parameterEntry = second.parameters.map parameterEntry := by
      apply List.ext_getElem (by simpa using lengths)
      intro place bound bound'
      rw [List.length_map] at bound bound'
      obtain ⟨directions, names⟩ := parameters place _ _ (List.getElem?_eq_getElem bound)
        (List.getElem?_eq_getElem bound')
      simp only [List.getElem_map, parameterEntry, directions, names]
    rw [ofSignature, ofSignature, types, methods, entries]

/-- One operation as its source spells it. -/
def storeAsWritten : Signature where
  declaringType := "crate::stores::Store"
  method := "put_all"
  parameters :=
    [⟨"rows", "std::collections::HashMap<u8, fn(u8, [u8; 2]) -> std::string::String>", .input, 0⟩,
     ⟨"count", "core::primitive::u64", .output, 1⟩]
  shape := .value

/-- The same operation as a compiler reports it, with other parameter names and another shape. -/
def storeAsReported : Signature where
  declaringType := "crate.stores . Store"
  method := "put_all"
  parameters :=
    [⟨"a", "HashMap<u8,fn(u8,[u8;2])->alloc::string::String>", .input, 0⟩, ⟨"b", "u64", .output, 7⟩]
  shape := .asyncVoid

/-- Two spellings of one operation, with commas at every depth, have one key. -/
theorem ofSignature_eq_iff_stores :
    IsReadable storeAsWritten ∧ IsReadable storeAsReported ∧
      ofSignature storeAsWritten = ofSignature storeAsReported := by
  have written : IsReadable storeAsWritten :=
    ⟨by decide +kernel,
      ⟨["crate".toList, "stores".toList, "Store".toList], by decide +kernel, by decide +kernel⟩,
      by decide +kernel⟩
  have reported : IsReadable storeAsReported :=
    ⟨by decide +kernel,
      ⟨["crate".toList, "stores".toList, "Store".toList], by decide +kernel, by decide +kernel⟩,
      by decide +kernel⟩
  refine ⟨written, reported, (ofSignature_eq_iff written reported).mpr ⟨?_, rfl, rfl, ?_⟩⟩
  · decide +kernel
  · intro place parameter parameter' here here'
    match place with
    | 0 =>
      obtain rfl := Option.some.inj here
      obtain rfl := Option.some.inj here'
      decide +kernel
    | 1 =>
      obtain rfl := Option.some.inj here
      obtain rfl := Option.some.inj here'
      decide +kernel
    | place + 2 => simp [storeAsWritten] at here

end CanonicalKey

end ServiceDispatch
