import Mathlib.Data.List.Basic
import Mathlib.Data.List.TakeWhile
import ServiceDispatch.Proofs.TypeName.Composition

/-!
# Paths of modules

The path of a module joins names with `::`. The normal form of a name in a module joins them with
dots, as long as every name of the path starts and ends with a character of words. Next to any other
character a separator is lost, so such names are not covered.
-/

namespace ServiceDispatch.TypeName

/-- A character that names may have besides those of words: one that continues an identifier, or the
mark of a raw name. -/
@[mk_iff]
structure IsInert (c : Char) : Prop where
  noWord : isWordChar c = false
  inName : Text.isIdentifierContinue c = true ∨ c = '#'

/-- The code points of white space. -/
def blankCodes : List Nat :=
  Text.blankRanges.intervals.flatMap fun interval =>
    List.range' interval.1 (interval.2 + 1 - interval.1)

/-- What holds of no code point of white space holds of no white space. -/
theorem isBlank_eq_false {p : Char → Bool} (none : ∀ code ∈ blankCodes, p (Char.ofNat code) = false)
    {c : Char} (holds : p c = true) : Text.isBlank c = false := by
  rw [← Bool.not_eq_true]
  intro blank
  obtain ⟨interval, mem, low, high⟩ := Text.Ranges.contains_iff.mp blank
  have code : c.toNat ∈ blankCodes :=
    List.mem_flatMap.mpr ⟨interval, mem, List.mem_range'_1.mpr ⟨low, by omega⟩⟩
  have apart := none c.toNat code
  rw [Char.ofNat_toNat, holds] at apart
  cases apart

theorem isBlank_of_isWordChar {c : Char} (inside : isWordChar c = true) : Text.isBlank c = false :=
  isBlank_eq_false (by decide +kernel) inside

namespace IsInert

variable {c : Char}

theorem isBlank (inert : IsInert c) : Text.isBlank c = false :=
  isBlank_eq_false (p := fun c => Text.isIdentifierContinue c || c = '#') (by decide +kernel)
    (by simpa using inert.inName)

/-- Characters that a type name reads or writes in a way of their own. -/
def special : List Char := [':', '-', '>', '\'', '.', ',', ';', '+']

theorem not_mem_special (inert : IsInert c) : c ∉ special := by
  intro mem
  have others : special.all (fun c => !Text.isIdentifierContinue c && c ≠ '#') = true := by
    decide +kernel
  obtain ⟨noContinue, noMark⟩ : Text.isIdentifierContinue c = false ∧ c ≠ '#' := by
    simpa using List.all_eq_true.mp others c mem
  obtain continues | rfl := inert.inName
  · rw [noContinue] at continues
    cases continues
  · exact noMark rfl

theorem tokenize_cons (inert : IsInert c) (rest : List Char) :
    tokenize (c :: rest) = .mark c :: tokenize rest := by
  have apart := inert.not_mem_special
  simp only [special, List.mem_cons, List.not_mem_nil, or_false, not_or] at apart
  obtain ⟨noColon, noDash, -, noQuote, noDot, -⟩ := apart
  rw [TypeName.tokenize_cons (fun same => absurd same noColon) (fun same => absurd same noDash),
    inert.isBlank, inert.noWord, if_neg Bool.false_ne_true, if_neg Bool.false_ne_true,
    if_neg noQuote, if_neg noDot]

theorem render_cons (inert : IsInert c) (before : Before) (rest : List Piece) :
    render before (.mark c :: rest) = c :: render .other rest := by
  have apart := inert.not_mem_special
  simp only [special, List.mem_cons, List.not_mem_nil, or_false, not_or] at apart
  obtain ⟨-, -, noClosing, -, -, noComma, noSemicolon, noPlus⟩ := apart
  simp [render, markText, noClosing, noComma, noSemicolon, noPlus]

theorem sticks (inert : IsInert c) (right : Char) : sticks c right = false := by
  have apart := inert.not_mem_special
  simp only [special, List.mem_cons, List.not_mem_nil, or_false, not_or] at apart
  obtain ⟨noColon, noDash, -, noQuote, -⟩ := apart
  simp [TypeName.sticks, inert.noWord, noQuote, noColon, noDash]

end IsInert

/-- A non-empty run of word characters. -/
structure IsWord (word : List Char) : Prop where
  nonempty : word ≠ []
  each : ∀ c ∈ word, isWordChar c = true

/-- A name as the path of a module spells it, if it starts and ends with a word character. -/
structure IsModuleName (name : List Char) : Prop where
  starts : ∃ c, name.head? = some c ∧ isWordChar c = true
  ends : ∃ c, name.getLast? = some c ∧ isWordChar c = true
  each : ∀ c ∈ name, isWordChar c = true ∨ IsInert c

/-- `IsModuleName`, run. -/
def isModuleName (name : List Char) : Bool :=
  name.head?.any isWordChar && name.getLast?.any isWordChar &&
    name.all fun c => isWordChar c || Text.isIdentifierContinue c || c = '#'

theorem isModuleName_iff {name : List Char} : isModuleName name = true ↔ IsModuleName name := by
  have each : ∀ c, (isWordChar c || Text.isIdentifierContinue c || c = '#') = true ↔
      isWordChar c = true ∨ IsInert c := by
    intro c
    cases word : isWordChar c with
    | true => simp
    | false => simp [isInert_iff, word]
  simp only [isModuleName, Bool.and_eq_true, Option.any_eq_true, List.all_eq_true, each]
  exact ⟨fun ⟨⟨starts, ends⟩, all⟩ => ⟨starts, ends, all⟩,
    fun ⟨starts, ends, all⟩ => ⟨⟨starts, ends⟩, all⟩⟩

instance (name : List Char) : Decidable (IsModuleName name) := decidable_of_iff _ isModuleName_iff

theorem IsWord.isModuleName {word : List Char} (isWord : IsWord word) : IsModuleName word := by
  obtain ⟨nonempty, each⟩ := isWord
  exact ⟨⟨_, List.head?_eq_some_head nonempty, each _ (List.head_mem nonempty)⟩,
    ⟨_, List.getLast?_eq_some_getLast nonempty, each _ (List.getLast_mem nonempty)⟩,
    fun c mem => .inl (each c mem)⟩

/-- A text that ends like a name ends in a name, with only other characters before it. -/
theorem exists_name_after {text : List Char}
    (ends : ∃ c, text.getLast? = some c ∧ isWordChar c = true)
    (each : ∀ c ∈ text, isWordChar c = true ∨ IsInert c) :
    ∃ marks rest, text = marks ++ rest ∧ (∀ c ∈ marks, IsInert c) ∧ IsModuleName rest := by
  induction text with
  | nil => simp at ends
  | cons c rest ih =>
    obtain ⟨inside | inert, later⟩ := List.forall_mem_cons.mp each
    · exact ⟨[], c :: rest, rfl, by simp, ⟨c, rfl, inside⟩, ends, each⟩
    · cases rest with
      | nil =>
        obtain ⟨_, ⟨⟩, inside⟩ := ends
        exact absurd inside (by simp [inert.noWord])
      | cons d rest =>
        rw [List.getLast?_cons_cons] at ends
        obtain ⟨marks, name, split, others, isName⟩ := ih ends later
        exact ⟨c :: marks, name, by rw [split, List.cons_append],
          List.forall_mem_cons.mpr ⟨inert, others⟩, isName⟩

/-- A name is a word, or a word, other characters and a name again. -/
theorem IsModuleName.cases_word {name : List Char} (isName : IsModuleName name) :
    IsWord name ∨ ∃ word marks rest, name = word ++ (marks ++ rest) ∧ IsWord word ∧ marks ≠ [] ∧
      (∀ c ∈ marks, IsInert c) ∧ IsModuleName rest := by
  induction name with
  | nil => simpa using isName.starts
  | cons c rest ih =>
    obtain ⟨⟨_, ⟨⟩, inside⟩, ends, each⟩ := isName
    obtain ⟨-, later⟩ := List.forall_mem_cons.mp each
    cases rest with
    | nil => exact .inl ⟨by simp, by simpa using inside⟩
    | cons d rest =>
      rw [List.getLast?_cons_cons] at ends
      cases next : isWordChar d with
      | true =>
        obtain isWord | ⟨word, marks, name, split, isWord, others⟩ :=
          ih ⟨⟨d, rfl, next⟩, ends, later⟩
        · exact .inl ⟨by simp, List.forall_mem_cons.mpr ⟨inside, isWord.each⟩⟩
        · exact .inr ⟨c :: word, marks, name, by rw [split, List.cons_append],
            ⟨by simp, List.forall_mem_cons.mpr ⟨inside, isWord.each⟩⟩, others⟩
      | false =>
        obtain ⟨marks, name, split, others, isName⟩ := exists_name_after ends later
        refine .inr ⟨[c], marks, name, by rw [← split]; rfl, ⟨by simp, by simpa using inside⟩, ?_,
          others, isName⟩
        rintro rfl
        obtain ⟨first, starts, isFirst⟩ := isName.starts
        rw [← List.nil_append name, ← split] at starts
        obtain rfl : d = first := Option.some.inj starts
        rw [next] at isFirst
        cases isFirst

/-- Every word but the first stands after a dot. -/
theorem joinSegments_cons (first : List Char) (rest : List (List Char)) :
    joinSegments (first :: rest) = first ++ rest.flatMap fun word => '.' :: word := by
  induction rest generalizing first with
  | nil => simp [joinSegments]
  | cons next rest ih => rw [joinSegments, ih, List.flatMap_cons, List.cons_append]; simp

theorem joinSegments_append {first : List (List Char)} (nonempty : first ≠ [])
    (second : List (List Char)) :
    joinSegments (first ++ second) =
      joinSegments first ++ second.flatMap fun word => '.' :: word := by
  obtain ⟨word, rest, rfl⟩ := List.exists_cons_of_ne_nil nonempty
  simp [joinSegments_cons]

/-- Characters between two words make them one word of a path. -/
theorem joinSegments_between (before : List (List Char)) (left between right : List Char)
    (rest : List (List Char)) :
    joinSegments (before ++ [left]) ++ (between ++ joinSegments (right :: rest)) =
      joinSegments (before ++ (left ++ (between ++ right)) :: rest) := by
  cases before <;> simp [joinSegments_cons]

theorem shorten_of_none {segments : List (List Char)} (long : shortName? segments = none) :
    shorten segments = segments := by
  rw [shorten, long]

/-- Names with a separator after each of them, and a text after them. -/
def spelled : List (List Char) → (tail : List Char) → List Char
  | [], tail => tail
  | name :: rest, tail => name ++ ':' :: ':' :: spelled rest tail

theorem tokenize_word {word : List Char} (isWord : IsWord word) : tokenize word = [.word word] := by
  obtain ⟨nonempty, each⟩ := isWord
  cases word with
  | nil => exact absurd rfl nonempty
  | cons c rest =>
    obtain ⟨here, later⟩ := List.forall_mem_cons.mp each
    have noColon : c ≠ ':' := by
      rintro rfl
      exact absurd here (by decide)
    have noDash : c ≠ '-' := by
      rintro rfl
      exact absurd here (by decide)
    rw [tokenize_cons (fun same => absurd same noColon) (fun same => absurd same noDash),
      isBlank_of_isWordChar here, if_neg Bool.false_ne_true, if_pos here,
      List.takeWhile_eq_self_iff.mpr later, List.dropWhile_eq_nil_iff.mpr later, tokenize]

theorem tokenize_marks {marks : List Char} (inert : ∀ c ∈ marks, IsInert c) :
    tokenize marks = marks.map .mark := by
  induction marks with
  | nil => rw [tokenize]; rfl
  | cons c rest ih =>
    obtain ⟨here, later⟩ := List.forall_mem_cons.mp inert
    rw [here.tokenize_cons, ih later, List.map_cons]

/-- No token reaches from a word into what follows it, unless that goes on with a word. -/
theorem parts_of_word {c : Char} (inside : isWordChar c = true) {right : Char}
    (other : isWordChar right = false) : sticks c right = false := by
  have noColon : c ≠ ':' := by
    rintro rfl
    exact absurd inside (by decide)
  have noDash : c ≠ '-' := by
    rintro rfl
    exact absurd inside (by decide)
  simp [sticks, other, noColon, noDash]

/-- The tokens of a name that is not a single word. -/
theorem tokenize_marked {word marks rest : List Char} (isWord : IsWord word) (someMark : marks ≠ [])
    (inert : ∀ c ∈ marks, IsInert c) :
    tokenize (word ++ (marks ++ rest)) = .word word :: (marks.map .mark ++ tokenize rest) := by
  have afterWord : Parts word (marks ++ rest) := by
    intro left right last head
    obtain ⟨mark, others, rfl⟩ := List.exists_cons_of_ne_nil someMark
    obtain rfl : mark = right := Option.some.inj head
    exact parts_of_word (isWord.each left (List.mem_of_getLast? last))
      (inert mark List.mem_cons_self).noWord
  have afterMarks : Parts marks rest := fun left right last _ =>
    (inert left (List.mem_of_getLast? last)).sticks right
  rw [tokenize_append afterWord, tokenize_append afterMarks, tokenize_word isWord,
    tokenize_marks inert]
  rfl

theorem tokenize_spelled_cons {name : List Char} (isName : IsModuleName name)
    (rest : List (List Char)) (tail : List Char) :
    tokenize (spelled (name :: rest) tail) =
      tokenize name ++ .separator :: tokenize (spelled rest tail) := by
  have parts : Parts name (':' :: ':' :: spelled rest tail) := by
    intro left right last head
    obtain rfl : ':' = right := Option.some.inj head
    obtain ⟨c, isLast, inside⟩ := isName.ends
    obtain rfl : c = left := Option.some.inj (isLast.symm.trans last)
    exact parts_of_word inside (by decide)
  rw [spelled, tokenize_append parts, tokenize]

/-- The words of the paths among some tokens. -/
def pathsOf (tokens : List Token) : List (List (List Char)) :=
  (pieces tokens).filterMap fun piece =>
    match piece with
    | .path _ segments => some segments
    | _ => none

/-- The text of a path, with words before it that belong to it, and of what follows. -/
def pathForm (before : List (List Char)) (tokens : List Token) : List Char :=
  let read := readPath .word tokens
  joinSegments (shorten (before ++ read.1)) ++ render .word (pieces read.2)

/-- The text of what follows a path and goes on with it. -/
def tailForm (tail : List Char) : List Char :=
  let read := readPath .word (tokenize tail)
  (read.1.flatMap fun word => '.' :: word) ++ render .word (pieces read.2)

/-- No path has a short name, the one included that words before it belong to. -/
structure IsLong (before : List (List Char)) (tokens : List Token) : Prop where
  first : shortName? (before ++ (readPath .word tokens).1) = none
  others : ∀ path ∈ pathsOf (readPath .word tokens).2, shortName? path = none

theorem pieces_word (word : List Char) (rest : List Token) :
    pieces (.word word :: rest) =
      .path false (readPath .word (.word word :: rest)).1 ::
        pieces (readPath .word (.word word :: rest)).2 := by
  rw [pieces]
  rfl

theorem render_word (word : List Char) (rest : List Token) :
    render .other (pieces (.word word :: rest)) = pathForm [] (.word word :: rest) := by
  rw [pieces_word]
  simp [render, pathLead, pathForm]

theorem isLong_of_pathsOf {word : List Char} {rest : List Token}
    (long : ∀ path ∈ pathsOf (.word word :: rest), shortName? path = none) :
    IsLong [] (.word word :: rest) := by
  have split : pathsOf (.word word :: rest) = (readPath .word (.word word :: rest)).1 ::
      pathsOf (readPath .word (.word word :: rest)).2 := by
    rw [pathsOf, pieces_word]
    rfl
  rw [split] at long
  obtain ⟨first, others⟩ := List.forall_mem_cons.mp long
  exact ⟨first, others⟩

theorem pathsOf_marks (marks : List Char) (tokens : List Token) :
    pathsOf (marks.map .mark ++ tokens) = pathsOf tokens := by
  induction marks with
  | nil => rfl
  | cons c rest ih =>
    rw [List.map_cons, List.cons_append, pathsOf, pieces]
    exact ih

theorem render_marks {marks : List Char} (someMark : marks ≠ []) (inert : ∀ c ∈ marks, IsInert c)
    (before : Before) (tokens : List Token) :
    render before (pieces (marks.map .mark ++ tokens)) =
      marks ++ render .other (pieces tokens) := by
  induction marks generalizing before with
  | nil => exact absurd rfl someMark
  | cons c rest ih =>
    obtain ⟨here, later⟩ := List.forall_mem_cons.mp inert
    rw [List.map_cons, List.cons_append, pieces, here.render_cons, List.cons_append]
    cases rest with
    | nil => rfl
    | cons d rest => rw [ih (List.cons_ne_nil _ _) later]

/-- The tokens of a name start with a word. -/
theorem IsModuleName.tokenize_eq_cons {name : List Char} (isName : IsModuleName name) :
    ∃ word rest, tokenize name = .word word :: rest := by
  obtain isWord | ⟨word, marks, rest, rfl, isWord, someMark, inert, -⟩ := isName.cases_word
  · exact ⟨name, [], tokenize_word isWord⟩
  · exact ⟨word, _, tokenize_marked isWord someMark inert⟩

/-- A name with a separator after it is written before what follows the separator. -/
theorem pathForm_name {rest : List (List Char)} {tail : List Char}
    (follows : ∀ before, before ≠ [] → IsLong before (tokenize (spelled rest tail)) →
      pathForm before (tokenize (spelled rest tail)) =
        joinSegments (before ++ rest) ++ tailForm tail)
    {name : List Char} (isName : IsModuleName name) (before : List (List Char))
    (long : IsLong before (tokenize name ++ .separator :: tokenize (spelled rest tail))) :
    pathForm before (tokenize name ++ .separator :: tokenize (spelled rest tail)) =
      joinSegments (before ++ name :: rest) ++ tailForm tail := by
  generalize size : name.length = n
  induction n using Nat.strongRecOn generalizing name before with
  | ind n ih =>
    obtain isWord | ⟨word, marks, name', rfl, isWord, someMark, inert, isName'⟩ :=
      isName.cases_word
    · -- the word is one more word of the path, and the path goes on
      have read : readPath .word (tokenize name ++ .separator :: tokenize (spelled rest tail)) =
          (name :: (readPath .word (tokenize (spelled rest tail))).1,
            (readPath .word (tokenize (spelled rest tail))).2) := by
        rw [tokenize_word isWord]
        rfl
      obtain ⟨first, others⟩ := long
      rw [read] at first others
      have further := follows (before ++ [name]) (by simp) ⟨by simpa using first, others⟩
      rw [pathForm, read]
      simpa [pathForm] using further
    · -- the marks end the path, and the rest of the name starts another one
      obtain ⟨start, later, starts⟩ := isName'.tokenize_eq_cons
      have read : readPath .word (tokenize (word ++ (marks ++ name')) ++
          .separator :: tokenize (spelled rest tail)) =
          ([word], marks.map .mark ++
            (tokenize name' ++ .separator :: tokenize (spelled rest tail))) := by
        obtain ⟨c, others, rfl⟩ := List.exists_cons_of_ne_nil someMark
        rw [tokenize_marked isWord someMark inert]
        simp [readPath]
      obtain ⟨first, others⟩ := long
      rw [read] at first others
      rw [pathsOf_marks, starts, List.cons_append] at others
      have shorter : name'.length < n := by
        have nonempty := List.length_pos_iff.mpr isWord.nonempty
        rw [← size, List.length_append, List.length_append]
        omega
      have further := ih _ shorter isName' []
        (by rw [starts]; exact isLong_of_pathsOf others) rfl
      rw [pathForm, read]
      dsimp only
      rw [shorten_of_none first, render_marks someMark inert, starts, List.cons_append, render_word,
        ← List.cons_append, ← starts, further, List.nil_append, ← joinSegments_between]
      simp

/-- Words that stand before the names of a path, the names and what follows them are written as one
path. -/
theorem pathForm_spelled {names : List (List Char)} (each : ∀ name ∈ names, IsModuleName name)
    (tail : List Char) {before : List (List Char)} (nonempty : before ++ names ≠ [])
    (long : IsLong before (tokenize (spelled names tail))) :
    pathForm before (tokenize (spelled names tail)) =
      joinSegments (before ++ names) ++ tailForm tail := by
  induction names generalizing before with
  | nil =>
    rw [List.append_nil] at nonempty
    rw [spelled] at long ⊢
    rw [pathForm, shorten_of_none long.first, joinSegments_append nonempty, List.append_nil,
      tailForm, List.append_assoc]
  | cons name rest ih =>
    obtain ⟨isName, others⟩ := List.forall_mem_cons.mp each
    rw [tokenize_spelled_cons isName] at long ⊢
    exact pathForm_name (fun before some long => ih others (by simp [some]) long) isName before long

/-- The normal form of a path of module names and a text after it, unless some path of the whole
text has a short name. -/
theorem normalizeChars_spelled {names : List (List Char)} {tail : List Char}
    (each : ∀ name ∈ names, IsModuleName name) (nonempty : names ≠ [])
    (long : ∀ path ∈ pathsOf (tokenize (spelled names tail)), shortName? path = none) :
    normalizeChars (spelled names tail) = joinSegments names ++ tailForm tail := by
  obtain ⟨word, rest, starts⟩ :
      ∃ word rest, tokenize (spelled names tail) = .word word :: rest := by
    obtain ⟨name, others, rfl⟩ := List.exists_cons_of_ne_nil nonempty
    obtain ⟨word, rest, starts⟩ := (each name List.mem_cons_self).tokenize_eq_cons
    exact ⟨word, _, by rw [tokenize_spelled_cons (each name List.mem_cons_self), starts]; rfl⟩
  have isLong : IsLong [] (tokenize (spelled names tail)) := by
    rw [starts] at long ⊢
    exact isLong_of_pathsOf long
  have form := pathForm_spelled each tail (by simpa using nonempty) isLong
  rw [List.nil_append] at form
  rw [normalizeChars, ← form, starts, render_word]

/-- The words of the paths of a text. -/
def paths (text : String) : List (List (List Char)) := pathsOf (tokenize text.toList)

theorem toList_intercalate_dot (names : List String) :
    (".".intercalate names).toList = joinSegments (names.map String.toList) := by
  induction names with
  | nil => rfl
  | cons name rest ih =>
    cases rest with
    | nil => simp [joinSegments]
    | cons next rest =>
      rw [String.intercalate_cons_cons, String.toList_append, ih]
      simp [joinSegments]

theorem toList_intercalate_separator {names : List String} (nonempty : names ≠ [])
    (tail : String) :
    ("::".intercalate names ++ "::" ++ tail).toList =
      spelled (names.map String.toList) tail.toList := by
  induction names with
  | nil => exact absurd rfl nonempty
  | cons name rest ih =>
    cases rest with
    | nil => simp [spelled]
    | cons next rest =>
      have more := ih (List.cons_ne_nil _ _)
      simp only [String.toList_append] at more
      rw [String.intercalate_cons_cons]
      simp only [String.toList_append, List.append_assoc] at more ⊢
      rw [more]
      rfl

/-- The normal form of a name in a module is the path of the module with dots in place of
separators, and then a text that depends on the name alone. -/
theorem normalize_inModule {names : List String} {name : String}
    (each : ∀ part ∈ names, IsModuleName part.toList) (nonempty : names ≠ [])
    (long : ∀ path ∈ paths ("::".intercalate names ++ "::" ++ name), shortName? path = none) :
    normalize ("::".intercalate names ++ "::" ++ name) =
      ".".intercalate names ++ String.ofList (tailForm name.toList) := by
  rw [paths, toList_intercalate_separator nonempty] at long
  apply String.toList_injective
  rw [normalize, String.toList_ofList, toList_intercalate_separator nonempty, String.toList_append,
    String.toList_ofList, toList_intercalate_dot,
    normalizeChars_spelled (List.forall_mem_map.mpr each) (by simpa using nonempty) long]

/-- No path that starts with `self` has a short name. -/
theorem shortName?_self (rest : List (List Char)) : shortName? ("self".toList :: rest) = none := by
  have roots : ∀ row ∈ aliases, row.1.head? ≠ some "self" := by decide +kernel
  have none :
      aliases.find? (fun row => row.1.map String.toList = "self".toList :: rest) = none := by
    refine List.find?_eq_none.mpr fun row mem same => ?_
    obtain ⟨first, others, split, isFirst, -⟩ := List.map_eq_cons_iff.mp (of_decide_eq_true same)
    refine roots row mem ?_
    rw [split, List.head?_cons, String.toList_injective isFirst]
  rw [shortName?, none]
  rfl

/-- A path that starts with a word that no short name's path starts with goes on as it is
written. -/
theorem normalizeChars_of_long {word : List Char} (isWord : IsWord word)
    (long : ∀ rest, shortName? (word :: rest) = none) (tail : List Char) :
    normalizeChars (spelled [word] tail) = word ++ tailForm tail := by
  have starts : tokenize (spelled [word] tail) = .word word :: .separator :: tokenize tail := by
    rw [tokenize_spelled_cons isWord.isModuleName, tokenize_word isWord]
    rfl
  have read : readPath .word (.word word :: .separator :: tokenize tail) =
      (word :: (readPath .word (tokenize tail)).1, (readPath .word (tokenize tail)).2) := rfl
  rw [normalizeChars, starts, render_word, pathForm, read]
  dsimp only
  rw [List.nil_append, shorten_of_none (long _), joinSegments_cons, List.append_assoc, tailForm]

/-- The normal form of a name in the module that stands for any, whatever paths the name has. -/
theorem normalize_self (name : String) :
    normalize ("self" ++ "::" ++ name) = "self" ++ String.ofList (tailForm name.toList) := by
  rw [normalize,
    show ("self" ++ "::" ++ name).toList = spelled ["self".toList] name.toList from
      toList_intercalate_separator (List.cons_ne_nil "self" []) name,
    normalizeChars_of_long ⟨by decide, List.all_eq_true.mp (by decide)⟩ shortName?_self,
    String.ofList_append, String.ofList_toList]

end ServiceDispatch.TypeName
