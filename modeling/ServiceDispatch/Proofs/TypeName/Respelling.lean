import Mathlib.Logic.Relation
import ServiceDispatch.Proofs.TypeName.Canonical

/-!
# Spellings of one type

Source text and compilers write library types by different paths and space them differently. A path
with a short name may be written in full or short wherever it stands as a whole path, at any depth
of a type, and white space may stand between any two tokens: the normal form is the same for all
such spellings.
-/

namespace ServiceDispatch.TypeName

/-- Whether a token is a word. -/
def Token.isWord : Token → Bool
  | .word _ => true
  | _ => false

/-- What stands between two texts is read as a whole path, if it is read as a path at all. -/
structure StandsAlone (before after : List Char) : Prop where
  /-- No word and no lifetime goes on into the path. -/
  starts : ∀ c ∈ before.getLast?, isWordChar c = false ∧ c ≠ '\''
  /-- No separator stands before the path, with or without white space between. -/
  first : (tokenize before).getLast? ≠ some .separator
  /-- The path does not go on with a word character. -/
  ends : ∀ c ∈ after.head?, isWordChar c = false
  /-- It does not go on with separators and a word either. -/
  last : (tokenize after).head? = some .separator →
    ∀ token ∈ ((tokenize after).dropWhile (· = .separator)).head?, token.isWord = false

theorem standsAlone_iff {before after : List Char} :
    StandsAlone before after ↔
      before.getLast?.all (fun c => !isWordChar c && c != '\'') = true ∧
      (tokenize before).getLast? ≠ some .separator ∧
      after.head?.all (fun c => !isWordChar c) = true ∧
      ((tokenize after).head? = some .separator →
        ((tokenize after).dropWhile (· = .separator)).head?.all (fun token => !token.isWord) =
          true) := by
  simp only [Option.all_eq_true, Bool.and_eq_true, Bool.not_eq_true', bne_iff_ne]
  exact ⟨fun alone => ⟨alone.starts, alone.first, alone.ends, alone.last⟩,
    fun ⟨starts, first, ends, last⟩ => ⟨starts, first, ends, last⟩⟩

instance (before after : List Char) : Decidable (StandsAlone before after) :=
  decidable_of_iff' _ standsAlone_iff

/-- A place between two tokens of a text: cutting the text there divides its tokens. -/
def IsSeam (before after : List Char) : Prop :=
  tokenize (before ++ after) = tokenize before ++ tokenize after

instance (before after : List Char) : Decidable (IsSeam before after) :=
  inferInstanceAs (Decidable (_ = _))

/-- Two texts differ in the spelling of one path or in white space at one place. -/
inductive Respelling : String → String → Prop
  /-- A path that has a short name is written in full or short. -/
  | path {path : List String} {short before after : String} (known : (path, short) ∈ aliases)
      (alone : StandsAlone before.toList after.toList) :
      Respelling (before ++ "::".intercalate path ++ after) (before ++ short ++ after)
  /-- White space stands between two tokens, or more of it does. -/
  | blanks {before blanks after : String} (each : ∀ c ∈ blanks.toList, Text.isBlank c = true)
      (seam : IsSeam before.toList after.toList) :
      Respelling (before ++ after) (before ++ blanks ++ after)

/-- No white space belongs to a token. -/
theorem sticks_blank {blank : Char} (isBlank : Text.isBlank blank = true) (left : Char) :
    sticks left blank = false := by
  have noWord : isWordChar blank = false := by
    rw [← Bool.not_eq_true]
    intro inside
    rw [isBlank_of_isWordChar inside] at isBlank
    cases isBlank
  have noColon : blank ≠ ':' := by
    rintro rfl
    exact absurd isBlank (by decide)
  have noClosing : blank ≠ '>' := by
    rintro rfl
    exact absurd isBlank (by decide)
  simp [sticks, noWord, noColon, noClosing]

theorem tokenize_blanks {blanks : List Char} (each : ∀ c ∈ blanks, Text.isBlank c = true)
    (after : List Char) : tokenize (blanks ++ after) = tokenize after := by
  induction blanks with
  | nil => rfl
  | cons blank rest ih =>
    obtain ⟨isBlank, others⟩ := List.forall_mem_cons.mp each
    have noColon : blank ≠ ':' := by
      rintro rfl
      exact absurd isBlank (by decide)
    have noDash : blank ≠ '-' := by
      rintro rfl
      exact absurd isBlank (by decide)
    rw [List.cons_append, tokenize_cons (fun same => absurd same noColon)
      (fun same => absurd same noDash), if_pos isBlank, ih others]

/-- White space between two tokens changes no token. -/
theorem IsSeam.tokenize_blanks {before blanks after : List Char} (seam : IsSeam before after)
    (each : ∀ c ∈ blanks, Text.isBlank c = true) :
    tokenize (before ++ (blanks ++ after)) = tokenize (before ++ after) := by
  cases blanks with
  | nil => rfl
  | cons blank rest =>
    have parts : Parts before (blank :: rest ++ after) := by
      intro left right _ head
      obtain rfl := Option.some.inj head
      exact sticks_blank (each blank List.mem_cons_self) left
    rw [tokenize_append parts, TypeName.tokenize_blanks each, seam]

/-- What does not end with a separator is not followed by one in its later parts. -/
theorem getLast?_ne_of_cons {token : Token} {rest : List Token}
    (closed : (token :: rest).getLast? ≠ some .separator) : rest.getLast? ≠ some .separator := by
  intro last
  exact closed (by simp [List.getLast?_cons, last])

/-- What does not end with a separator is read by itself before a word. -/
theorem readPath_append_word (awaited : Awaited) {tokens second : List Token} {word : List Char}
    (closed : tokens.getLast? ≠ some .separator) (begun : awaited = .word → tokens ≠ [])
    (starts : second.head? = some (.word word)) :
    readPath awaited (tokens ++ second) =
        ((readPath awaited tokens).1, (readPath awaited tokens).2 ++ second) ∧
      (readPath awaited tokens).2.getLast? ≠ some .separator := by
  induction tokens generalizing awaited with
  | nil =>
    obtain ⟨more, rfl⟩ := List.head?_eq_some_iff.mp starts
    cases awaited with
    | word => exact absurd rfl (begun rfl)
    | separator => exact ⟨rfl, closed⟩
  | cons token rest ih =>
    have closed' := getLast?_ne_of_cons closed
    cases token with
    | separator =>
      have nonempty : rest ≠ [] := by
        rintro rfl
        exact closed rfl
      have further : ∀ tokens, readPath awaited (.separator :: tokens) = readPath .word tokens := by
        intro tokens
        cases awaited <;> rfl
      rw [List.cons_append, further, further]
      exact ih .word closed' fun _ => nonempty
    | word text =>
      cases awaited with
      | separator => exact ⟨rfl, closed⟩
      | word =>
        have further : ∀ tokens, readPath .word (.word text :: tokens) =
            (text :: (readPath .separator tokens).1, (readPath .separator tokens).2) :=
          fun _ => rfl
        obtain ⟨read, later⟩ := ih .separator closed' (fun absurd => nomatch absurd)
        rw [List.cons_append, further, further, read]
        exact ⟨rfl, later⟩
    | _ => cases awaited <;> exact ⟨rfl, closed⟩

/-- Tokens that do not end with a separator are grouped by themselves before a word. -/
theorem pieces_append_word {tokens second : List Token} {word : List Char}
    (closed : tokens.getLast? ≠ some .separator) (starts : second.head? = some (.word word)) :
    pieces (tokens ++ second) = pieces tokens ++ pieces second := by
  fun_induction pieces tokens with
  | case1 => rfl
  | case2 text rest read ih =>
    obtain ⟨reads, closed'⟩ :=
      readPath_append_word .separator (getLast?_ne_of_cons closed) (by simp) starts
    rw [List.cons_append, pieces, reads, ih closed']
    rfl
  | case3 rest read ih =>
    have nonempty : rest ≠ [] := by
      rintro rfl
      exact closed rfl
    obtain ⟨reads, closed'⟩ :=
      readPath_append_word .word (getLast?_ne_of_cons closed) (fun _ => nonempty) starts
    rw [List.cons_append, pieces, reads, ih closed']
    rfl
  | case4 name rest ih | case5 rest ih | case6 c rest ih =>
    rw [List.cons_append, pieces, ih (getLast?_ne_of_cons closed)]
    rfl

/-- Where no word follows separators, none is read. -/
theorem readPath_word_eq_nil {tokens : List Token}
    (none : ∀ token ∈ (tokens.dropWhile (· = .separator)).head?, token.isWord = false) :
    (readPath .word tokens).1 = [] := by
  induction tokens with
  | nil => rfl
  | cons token rest ih =>
    cases token with
    | separator => exact ih none
    | word text => exact absurd (none (.word text) rfl) (by simp [Token.isWord])
    | _ => rfl

/-- A path that stands alone has no word of what follows it. -/
theorem StandsAlone.readPath_eq_nil {before after : List Char} (alone : StandsAlone before after) :
    (readPath .separator (tokenize after)).1 = [] := by
  have last := alone.last
  generalize tokenize after = tokens at last
  cases tokens with
  | nil => rfl
  | cons token rest =>
    cases token with
    | separator => exact readPath_word_eq_nil (last rfl)
    | _ => rfl

/-- The spelling of a path with `::` between its words. -/
def spelledPath : List (List Char) → List Char
  | [] => []
  | first :: rest => first ++ rest.flatMap fun word => ':' :: ':' :: word

theorem toList_intercalate_path (path : List String) :
    ("::".intercalate path).toList = spelledPath (path.map String.toList) := by
  induction path with
  | nil => rfl
  | cons first rest ih =>
    cases rest with
    | nil => simp [spelledPath]
    | cons next rest =>
      rw [String.intercalate_cons_cons, String.toList_append, ih]
      simp [spelledPath]

/-- A path that stands alone is one piece of the text. -/
theorem StandsAlone.normalizeChars_path {before after : List Char}
    (alone : StandsAlone before after) {words : List (List Char)} (nonempty : words ≠ [])
    (each : ∀ word ∈ words, IsWord word) :
    normalizeChars (before ++ (spelledPath words ++ after)) =
      render .other (pieces (tokenize before) ++
        .path false words :: pieces (readPath .separator (tokenize after)).2) := by
  obtain ⟨first, rest, rfl⟩ := List.exists_cons_of_ne_nil nonempty
  obtain ⟨isWord, later⟩ := List.forall_mem_cons.mp each
  have path : tokenize (spelledPath (first :: rest)) = pathTokens (first :: rest) :=
    tokenize_path ':' [':'] (by decide) (fun _ => by rw [List.singleton_append, tokenize]) each
  have partsBefore : Parts before (spelledPath (first :: rest) ++ after) := by
    intro left right last head
    obtain ⟨noWord, noQuote⟩ := alone.starts left last
    obtain ⟨c, chars, rfl⟩ := List.exists_cons_of_ne_nil isWord.nonempty
    obtain rfl := Option.some.inj head
    have inside := isWord.each c List.mem_cons_self
    have noColon : c ≠ ':' := by
      rintro rfl
      exact absurd inside (by decide)
    have noClosing : c ≠ '>' := by
      rintro rfl
      exact absurd inside (by decide)
    simp [sticks, noWord, noQuote, noColon, noClosing]
  have partsAfter : Parts (spelledPath (first :: rest)) after := by
    intro left right last head
    obtain ⟨start, final, ends, isWord⟩ := exists_final_word [':', ':'] each
    have split : spelledPath (first :: rest) = start ++ final := ends
    rw [split, List.getLast?_append_of_ne_nil _ isWord.nonempty] at last
    exact parts_of_word (isWord.each left (List.mem_of_getLast? last)) (alone.ends right head)
  have read : pieces (pathTokens (first :: rest) ++ tokenize after) =
      .path false (first :: rest) :: pieces (readPath .separator (tokenize after)).2 := by
    rw [pathTokens, List.cons_append, pieces, readPath_laterTokens, alone.readPath_eq_nil,
      List.append_nil]
  rw [normalizeChars, tokenize_append partsBefore, tokenize_append partsAfter, path,
    pieces_append_word alone.first rfl, read]

/-- Every short name is that of its path. -/
theorem shorten_of_mem {path : List String} {short : String} (known : (path, short) ∈ aliases) :
    shorten (path.map String.toList) = [short.toList] := by
  have each : ∀ row ∈ aliases, shortName? (row.1.map String.toList) = some row.2.toList := by
    decide +kernel
  rw [shorten, each _ known]

/-- A path with a short name has the normal form of that name wherever it stands alone. -/
theorem StandsAlone.normalize_path {path : List String} {short before after : String}
    (alone : StandsAlone before.toList after.toList) (known : (path, short) ∈ aliases) :
    normalize (before ++ "::".intercalate path ++ after) =
      normalize (before ++ short ++ after) := by
  obtain ⟨nonempty, each⟩ := isWord_of_mem_aliases known
  obtain ⟨isWord, others⟩ := List.forall_mem_cons.mp each
  have long := alone.normalizeChars_path (by simpa using nonempty)
    (List.forall_mem_map.mpr others)
  have brief := alone.normalizeChars_path (List.cons_ne_nil short.toList [])
    (List.forall_mem_cons.mpr ⟨isWord, by simp⟩)
  have same : shorten [short.toList] = shorten (path.map String.toList) := by
    rw [← shorten_of_mem known, shorten_shorten]
  have spelled : spelledPath [short.toList] = short.toList := by simp [spelledPath]
  rw [spelled] at brief
  rw [normalize, normalize, String.toList_append, String.toList_append, String.toList_append,
    String.toList_append, toList_intercalate_path, List.append_assoc, List.append_assoc, long,
    brief, render_append, render_append, render, render, same]

/-- A text has the normal form of every other spelling of its paths and every other spacing of its
tokens. -/
theorem normalize_respelled {text other : String}
    (respelled : Relation.EqvGen Respelling text other) : normalize text = normalize other := by
  induction respelled with
  | rel text other step =>
    cases step with
    | path known alone => exact alone.normalize_path known
    | blanks each seam =>
      rw [normalize, normalize, normalizeChars, normalizeChars, String.toList_append,
        String.toList_append, String.toList_append, List.append_assoc, seam.tokenize_blanks each]
  | refl text => rfl
  | symm text other _ ih => exact ih.symm
  | trans text middle other _ _ ih ih' => exact ih.trans ih'

/-- A function type of one source is that of another one: the argument is written by another path,
the result by its short name after an arrow, and white space stands before the arrow. -/
theorem normalize_respelled_function :
    Relation.EqvGen Respelling "dyn Fn(std::vec::Vec<u8>)->core::primitive::u8"
        "dyn Fn(alloc::vec::Vec<u8>) ->u8" ∧
      normalize "dyn Fn(std::vec::Vec<u8>)->core::primitive::u8" =
        normalize "dyn Fn(alloc::vec::Vec<u8>) ->u8" := by
  have source : Respelling "dyn Fn(std::vec::Vec<u8>)->core::primitive::u8"
      "dyn Fn(Vec<u8>)->core::primitive::u8" :=
    @Respelling.path ["std", "vec", "Vec"] "Vec" "dyn Fn(" "<u8>)->core::primitive::u8"
      (by decide) (by decide +kernel)
  have compiled : Respelling "dyn Fn(alloc::vec::Vec<u8>)->core::primitive::u8"
      "dyn Fn(Vec<u8>)->core::primitive::u8" :=
    @Respelling.path ["alloc", "vec", "Vec"] "Vec" "dyn Fn(" "<u8>)->core::primitive::u8"
      (by decide) (by decide +kernel)
  have result : Respelling "dyn Fn(alloc::vec::Vec<u8>)->core::primitive::u8"
      "dyn Fn(alloc::vec::Vec<u8>)->u8" :=
    @Respelling.path ["core", "primitive", "u8"] "u8" "dyn Fn(alloc::vec::Vec<u8>)->" ""
      (by decide) (by decide +kernel)
  have spaced : Respelling "dyn Fn(alloc::vec::Vec<u8>)->u8" "dyn Fn(alloc::vec::Vec<u8>) ->u8" :=
    @Respelling.blanks "dyn Fn(alloc::vec::Vec<u8>)" " " "->u8" (List.all_eq_true.mp (by decide))
      (by decide +kernel)
  have respelled : Relation.EqvGen Respelling "dyn Fn(std::vec::Vec<u8>)->core::primitive::u8"
      "dyn Fn(alloc::vec::Vec<u8>) ->u8" :=
    .trans _ _ _ (.rel _ _ source) <| .trans _ _ _ (.symm _ _ (.rel _ _ compiled)) <|
      .trans _ _ _ (.rel _ _ result) (.rel _ _ spaced)
  exact ⟨respelled, normalize_respelled respelled⟩

end ServiceDispatch.TypeName
