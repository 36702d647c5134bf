import ServiceDispatch.Proofs.TypeName.Reduction

/-!
# Normal forms are canonical

The normal form of a regular type name is read back as its reduced tokens. So normalization changes
nothing when it is repeated, and two type names have one normal form exactly if their reduced tokens
are the same. Where two marks look like one token together, or separators belong to no path, the
normal form may be read otherwise than it was written; such type names are not covered.
-/

namespace ServiceDispatch.TypeName

/-- A character that is read as a mark, unless it makes one token with the next. -/
structure IsMark (c : Char) : Prop where
  visible : Text.isBlank c = false
  noWord : isWordChar c = false
  noQuote : c ≠ '\''
  noDot : c ≠ '.'

/-- A token that some text is read to. -/
def Token.IsRead : Token → Prop
  | .word text => IsWord text
  | .lifetime name => ∀ c ∈ name, isWordChar c = true
  | .mark c => IsMark c
  | .separator | .arrow => True

theorem isRead_tokenize (text : List Char) : ∀ token ∈ tokenize text, token.IsRead := by
  fun_induction tokenize text with
  | case1 => simp
  | case2 rest ih | case3 rest ih => exact List.forall_mem_cons.mpr ⟨trivial, ih⟩
  | case4 c rest alone alone' blank ih => exact ih
  | case5 c rest alone alone' visible word ih =>
    refine List.forall_mem_cons.mpr ⟨⟨List.cons_ne_nil _ _, ?_⟩, ih⟩
    exact List.forall_mem_cons.mpr ⟨word, fun _ mem => List.mem_takeWhile_imp mem⟩
  | case6 rest alone alone' visible noWord ih =>
    exact List.forall_mem_cons.mpr ⟨fun _ mem => List.mem_takeWhile_imp mem, ih⟩
  | case7 rest alone alone' visible noWord noQuote ih =>
    exact List.forall_mem_cons.mpr ⟨trivial, ih⟩
  | case8 c rest alone alone' visible noWord noQuote noDot ih =>
    refine List.forall_mem_cons.mpr ⟨⟨?_, ?_, noQuote, noDot⟩, ih⟩
    · simpa using visible
    · simpa using noWord

/-- A piece whose text is read back as that piece. -/
def Piece.IsSound : Piece → Prop
  | .path _ words => words ≠ [] ∧ ∀ word ∈ words, IsWord word
  | .lifetime name => ∀ c ∈ name, isWordChar c = true
  | .arrow => True
  | .mark c => IsMark c

/-- Pieces whose texts are read back one by one. -/
structure IsClean (pieces : List Piece) : Prop where
  sound : ∀ piece ∈ pieces, piece.IsSound
  colons : ¬ [.mark ':', .mark ':'] <:+: pieces
  dashes : ¬ [.mark '-', .mark '>'] <:+: pieces

theorem IsClean.of_cons {piece : Piece} {rest : List Piece} (clean : IsClean (piece :: rest)) :
    IsClean rest :=
  ⟨(List.forall_mem_cons.mp clean.sound).2, fun inside => clean.colons (List.infix_cons inside),
    fun inside => clean.dashes (List.infix_cons inside)⟩

/-- The first piece is a mark only if the first token is that mark. -/
theorem head?_pieces {tokens : List Token} {c : Char}
    (first : (pieces tokens).head? = some (.mark c)) : tokens.head? = some (.mark c) := by
  cases tokens with
  | nil => simp [pieces] at first
  | cons token rest => cases token <;> simp_all [pieces]

/-- Marks that stand side by side among the pieces do so among the tokens. -/
theorem infix_of_infix_pieces {tokens : List Token} {c d : Char}
    (inside : [.mark c, .mark d] <:+: pieces tokens) : [.mark c, .mark d] <:+: tokens := by
  fun_induction pieces tokens with
  | case1 => simp at inside
  | case2 text rest read ih =>
    obtain starts | later := List.infix_cons_iff.mp inside
    · simp at starts
    · exact List.infix_cons ((ih later).trans (readPath_suffix .separator rest).isInfix)
  | case3 rest read ih =>
    obtain starts | later := List.infix_cons_iff.mp inside
    · simp at starts
    · exact List.infix_cons ((ih later).trans (readPath_suffix .word rest).isInfix)
  | case4 name rest ih | case5 rest ih =>
    obtain starts | later := List.infix_cons_iff.mp inside
    · simp at starts
    · exact List.infix_cons (ih later)
  | case6 e rest ih =>
    obtain starts | later := List.infix_cons_iff.mp inside
    · obtain ⟨same, next⟩ := List.cons_prefix_cons.mp starts
      obtain ⟨others, split⟩ := next
      have first : (pieces rest).head? = some (.mark d) := by
        rw [← split]
        rfl
      obtain ⟨rest', rfl⟩ := List.head?_eq_some_iff.mp (head?_pieces first)
      obtain rfl := Piece.mark.inj same
      exact ⟨[], rest', rfl⟩
    · exact List.infix_cons (ih later)

/-- The pieces of a regular type name can be read back. -/
theorem IsRegular.isClean {tokens : List Token} (regular : IsRegular tokens)
    (each : ∀ token ∈ tokens, token.IsRead) : IsClean (pieces tokens) := by
  obtain ⟨colons, dashes, full⟩ := isRegular_iff.mp regular
  refine ⟨?_, fun inside => colons (infix_of_infix_pieces inside),
    fun inside => dashes (infix_of_infix_pieces inside)⟩
  clear colons dashes regular
  fun_induction pieces tokens with
  | case1 => simp
  | case2 text rest read ih =>
    obtain ⟨here, later⟩ := List.forall_mem_cons.mp each
    refine List.forall_mem_cons.mpr ⟨⟨List.cons_ne_nil _ _, ?_⟩,
      ih (fun token mem => later token ((readPath_suffix .separator rest).mem mem))
        fun empty => full (List.mem_cons_of_mem _ empty)⟩
    exact List.forall_mem_cons.mpr ⟨here, fun word mem => later _ (word_mem_of_readPath mem)⟩
  | case3 rest read ih =>
    obtain ⟨-, later⟩ := List.forall_mem_cons.mp each
    refine List.forall_mem_cons.mpr ⟨⟨fun none => full ?_, ?_⟩,
      ih (fun token mem => later token ((readPath_suffix .word rest).mem mem))
        fun empty => full (List.mem_cons_of_mem _ empty)⟩
    · rw [none]
      exact List.mem_cons_self
    · exact fun word mem => later _ (word_mem_of_readPath mem)
  | case4 name rest ih | case5 rest ih | case6 c rest ih =>
    obtain ⟨here, later⟩ := List.forall_mem_cons.mp each
    exact List.forall_mem_cons.mpr
      ⟨here, ih later fun empty => full (List.mem_cons_of_mem _ empty)⟩

/-- The text of a piece that stands after one of the given kind. -/
def Piece.text (before : Before) : Piece → List Char
  | .path led words => pathLead before led ++ joinSegments (shorten words)
  | .lifetime name => (if before = .word then [' '] else []) ++ '\'' :: name
  | .arrow => [' ', '-', '>', ' ']
  | .mark c => markText c

/-- Pieces are written one after another. -/
theorem render_cons (before : Before) (piece : Piece) (rest : List Piece) :
    render before (piece :: rest) = piece.text before ++ render piece.before rest := by
  cases piece <;> simp [render, Piece.text, Piece.before]

/-- Paths with short names consist of words, and short names are words. -/
theorem isWord_of_mem_aliases {row : List String × String} (mem : row ∈ aliases) :
    row.1 ≠ [] ∧ ∀ word ∈ row.2 :: row.1, IsWord word.toList := by
  have run : aliases.all (fun row => !row.1.isEmpty &&
      (row.2 :: row.1).all fun word =>
        !word.toList.isEmpty && word.toList.all isWordChar) = true := by
    decide +kernel
  obtain ⟨nonempty, each⟩ := Bool.and_eq_true_iff.mp (List.all_eq_true.mp run row mem)
  refine ⟨by simpa using nonempty, fun word isPart => ?_⟩
  obtain ⟨some, inside⟩ := Bool.and_eq_true_iff.mp (List.all_eq_true.mp each word isPart)
  exact ⟨by simpa using some, List.all_eq_true.mp inside⟩

/-- Short names are words like those they stand for. -/
theorem isWord_of_mem_shorten {words : List (List Char)} (each : ∀ word ∈ words, IsWord word) :
    ∀ word ∈ shorten words, IsWord word := by
  rw [shorten]
  split
  · rename_i name found
    obtain ⟨row, isRow, rfl⟩ := Option.map_eq_some_iff.mp found
    obtain ⟨-, isWord⟩ := isWord_of_mem_aliases (List.mem_of_find?_eq_some isRow)
    simpa using isWord row.2 List.mem_cons_self
  · exact each

theorem shorten_ne_nil {words : List (List Char)} (nonempty : words ≠ []) :
    shorten words ≠ [] := by
  rw [shorten]
  split
  · exact List.cons_ne_nil _ _
  · exact nonempty

/-- A short name has no shorter one. -/
theorem shorten_shorten (words : List (List Char)) : shorten (shorten words) = shorten words := by
  have long : ∀ row ∈ aliases, row.1.length ≠ 1 := by decide +kernel
  have none : ∀ word, shortName? [word] = none := by
    intro word
    rw [shortName?, Option.map_eq_none_iff, List.find?_eq_none]
    intro row mem same
    exact long row mem (by simpa using congrArg List.length (of_decide_eq_true same))
  cases found : shortName? words with
  | none => rw [shorten_of_none found, shorten_of_none found]
  | some short =>
    have single : shorten words = [short] := by rw [shorten, found]
    rw [single, shorten_of_none (none short)]

theorem tokenize_dot (rest : List Char) : tokenize ('.' :: rest) = .separator :: tokenize rest := by
  rw [tokenize_cons (by simp) (by simp), if_neg (by decide), if_neg (by decide), if_neg (by decide),
    if_pos rfl]

/-- Words with a written separator between them are read as a path. -/
theorem tokenize_path (c : Char) (others : List Char) (noWord : isWordChar c = false)
    (reads : ∀ rest, tokenize (c :: (others ++ rest)) = .separator :: tokenize rest)
    {first : List Char} {words : List (List Char)} (each : ∀ word ∈ first :: words, IsWord word) :
    tokenize (first ++ words.flatMap fun word => c :: (others ++ word)) =
      pathTokens (first :: words) := by
  induction words generalizing first with
  | nil => simpa [pathTokens, laterTokens] using tokenize_word (each first List.mem_cons_self)
  | cons next rest ih =>
    obtain ⟨isWord, later⟩ := List.forall_mem_cons.mp each
    have parts : Parts first
        (c :: (others ++ (next ++ rest.flatMap fun word => c :: (others ++ word)))) := by
      intro left right last head
      obtain rfl := Option.some.inj head
      exact parts_of_word (isWord.each left (List.mem_of_getLast? last)) noWord
    rw [List.flatMap_cons, List.cons_append, List.append_assoc, tokenize_append parts,
      tokenize_word isWord, reads, ih later]
    rfl

theorem tokenize_joinSegments {words : List (List Char)} (each : ∀ word ∈ words, IsWord word) :
    tokenize (joinSegments words) = pathTokens words := by
  cases words with
  | nil => simp [joinSegments, pathTokens, tokenize]
  | cons first rest =>
    rw [joinSegments_cons]
    exact tokenize_path '.' [] (by decide) tokenize_dot each

theorem tokenize_blank (rest : List Char) : tokenize (' ' :: rest) = tokenize rest := by
  rw [tokenize_cons (by simp) (by simp), if_pos (by decide)]

/-- The text of a piece is read back as the tokens of the piece. -/
theorem Piece.IsSound.tokenize_text {piece : Piece} (sound : piece.IsSound) (before : Before) :
    tokenize (piece.text before) = piece.tokens before := by
  cases piece with
  | path led words =>
    have path := tokenize_joinSegments (isWord_of_mem_shorten sound.2)
    cases before <;> cases led <;>
      simp [Piece.text, Piece.tokens, pathLead, path, tokenize_dot, tokenize_blank]
  | lifetime name =>
    have quoted : tokenize ('\'' :: name) = [.lifetime name] := by
      rw [tokenize_cons (by simp) (by simp)]
      simp [show Text.isBlank '\'' = false by decide, show isWordChar '\'' = false by decide,
        List.takeWhile_eq_self_iff.mpr sound, List.dropWhile_eq_nil_iff.mpr sound, tokenize]
    rw [Piece.text, Piece.tokens]
    split
    · exact (tokenize_blank _).trans quoted
    · exact quoted
  | arrow =>
    rw [Piece.text, Piece.tokens]
    decide +kernel
  | mark c =>
    obtain ⟨visible, noWord, noQuote, noDot⟩ := sound
    have single : tokenize [c] = [.mark c] := by
      rw [tokenize_cons (by simp) (by simp)]
      simp [visible, noWord, noQuote, noDot, tokenize]
    rw [Piece.text, markText, Piece.tokens]
    split
    · rename_i comma
      subst comma
      decide +kernel
    · split
      · rename_i semicolon
        subst semicolon
        decide +kernel
      · split
        · rename_i plus
          subst plus
          decide +kernel
        · exact single

/-- A mark is written with nothing but blanks around it. -/
theorem mem_markText {c d : Char} (mem : d ∈ markText c) : d = c ∨ d = ' ' := by
  rw [markText] at mem
  split at mem
  · simp_all
  · split at mem
    · simp_all
    · split at mem
      · simp_all [or_comm]
      · simp_all

theorem markText_ne_nil (c : Char) : markText c ≠ [] := by
  rw [markText]
  split
  · simp
  · split
    · simp
    · split <;> simp

/-- A path ends with its last word, however its separators are written. -/
theorem exists_final_word (separator : List Char) {first : List Char} {rest : List (List Char)}
    (each : ∀ word ∈ first :: rest, IsWord word) :
    ∃ start final, first ++ rest.flatMap (fun word => separator ++ word) = start ++ final ∧
      IsWord final := by
  obtain rfl | ⟨init, final, rfl⟩ := rest.eq_nil_or_concat'
  · exact ⟨[], first, by simp, each first List.mem_cons_self⟩
  · exact ⟨first ++ (init.flatMap fun word => separator ++ word) ++ separator, final, by simp,
      each final (by simp)⟩

/-- What a text of pieces starts with: a mark, a character that no token goes on with, or a word
where none stands before it. -/
theorem head?_render {before : Before} {rest : List Piece} {right : Char}
    (sound : ∀ piece ∈ rest, piece.IsSound) (head : (render before rest).head? = some right) :
    rest.head? = some (.mark right) ∨ right = ' ' ∨ right = '\'' ∨ right = '.' ∨
      isWordChar right = true ∧ before ≠ .word := by
  cases rest with
  | nil => cases head
  | cons piece others =>
    rw [render_cons] at head
    cases piece with
    | path led words =>
      obtain ⟨nonempty, each⟩ := sound _ List.mem_cons_self
      obtain ⟨word, further, split⟩ := List.exists_cons_of_ne_nil (shorten_ne_nil nonempty)
      have isWord : IsWord word :=
        isWord_of_mem_shorten each word (by rw [split]; exact List.mem_cons_self)
      obtain ⟨c, chars, rfl⟩ := List.exists_cons_of_ne_nil isWord.nonempty
      have inside := isWord.each c List.mem_cons_self
      rw [Piece.text, split, joinSegments_cons] at head
      cases before <;> cases led <;> obtain rfl := Option.some.inj head <;> simp [inside]
    | lifetime name => cases before <;> obtain rfl := Option.some.inj head <;> simp
    | arrow =>
      obtain rfl := Option.some.inj head
      simp
    | mark c =>
      rw [Piece.text, List.head?_append_of_ne_nil _ (markText_ne_nil c)] at head
      obtain rfl | rfl := mem_markText (List.mem_of_mem_head? head)
      · exact .inl rfl
      · exact .inr (.inl rfl)

/-- No token reaches from a piece into the text of what follows it. -/
theorem IsClean.parts {piece : Piece} {rest : List Piece} (clean : IsClean (piece :: rest))
    (before : Before) : Parts (piece.text before) (render piece.before rest) := by
  obtain ⟨here, later⟩ := List.forall_mem_cons.mp clean.sound
  intro left right last head
  have next := head?_render later head
  have visible : ∀ {c}, rest.head? = some (.mark c) → IsMark c := by
    intro c first
    obtain ⟨others, rfl⟩ := List.head?_eq_some_iff.mp first
    exact later _ List.mem_cons_self
  -- after a word or a lifetime nothing starts with a word character
  have afterWord : piece.before = .word → isWordChar right = false := by
    intro word
    obtain mark | rfl | rfl | rfl | ⟨-, other⟩ := next
    · exact (visible mark).noWord
    · decide
    · decide
    · decide
    · exact absurd word other
  cases piece with
  | path led words =>
    obtain ⟨nonempty, each⟩ := here
    have shortEach := isWord_of_mem_shorten each
    obtain ⟨word, others, split⟩ := List.exists_cons_of_ne_nil (shorten_ne_nil nonempty)
    rw [split] at shortEach
    obtain ⟨start, final, ends, isWord⟩ := exists_final_word ['.'] shortEach
    simp only [List.singleton_append] at ends
    rw [Piece.text, split, joinSegments_cons, ends, ← List.append_assoc,
      List.getLast?_append_of_ne_nil _ isWord.nonempty] at last
    exact parts_of_word (isWord.each left (List.mem_of_getLast? last)) (afterWord rfl)
  | lifetime name =>
    have other := afterWord rfl
    obtain rfl | inside : left = '\'' ∨ isWordChar left = true := by
      rw [Piece.text, List.getLast?_append_of_ne_nil _ (List.cons_ne_nil _ _)] at last
      obtain same | mem := List.mem_cons.mp (List.mem_of_getLast? last)
      · exact .inl same
      · exact .inr (here left mem)
    · simp [sticks, other]
    · exact parts_of_word inside other
  | arrow =>
    obtain rfl := Option.some.inj last
    simp [sticks, show isWordChar ' ' = false by decide]
  | mark c =>
    obtain rfl | rfl := mem_markText (List.mem_of_getLast? last)
    · -- only two pairs of marks make one token, and the text goes on with a mark only as itself
      have single : ∀ d, isWordChar d = false → d ∉ [' ', '\'', '.'] → right = d →
          [.mark left, .mark d] <:+: Piece.mark left :: rest := by
        rintro d noWord apart rfl
        simp only [List.mem_cons, List.not_mem_nil, or_false, not_or] at apart
        obtain mark | same | same | same | ⟨inside, -⟩ := next
        · obtain ⟨others, rfl⟩ := List.head?_eq_some_iff.mp mark
          exact ⟨[], others, rfl⟩
        · exact absurd same apart.1
        · exact absurd same apart.2.1
        · exact absurd same apart.2.2
        · rw [noWord] at inside
          cases inside
      have noColons : left = ':' → right ≠ ':' := by
        rintro rfl same
        exact clean.colons (single ':' (by decide) (by decide) same)
      have noArrow : left = '-' → right ≠ '>' := by
        rintro rfl same
        exact clean.dashes (single '>' (by decide) (by decide) same)
      obtain ⟨-, noWord, noQuote, -⟩ := show IsMark left from here
      simpa [sticks, noWord, noQuote] using And.intro noColons noArrow
    · simp [sticks, show isWordChar ' ' = false by decide]

/-- The text of pieces is read back as their tokens in reduced form. -/
theorem IsClean.tokenize_render {pieces : List Piece} (clean : IsClean pieces) (before : Before) :
    tokenize (render before pieces) = tokensOf before pieces := by
  induction pieces generalizing before with
  | nil => simp [render, tokensOf, tokenize]
  | cons piece rest ih =>
    rw [render_cons, tokenize_append (clean.parts before), ih clean.of_cons, tokensOf,
      (clean.sound piece List.mem_cons_self).tokenize_text before]

/-- The piece that the reduced tokens of a piece are grouped to. -/
def Piece.settled (before : Before) : Piece → Piece
  | .path led words => .path (led && before = .closing) (shorten words)
  | piece => piece

/-- The pieces that the reduced tokens of pieces are grouped to. -/
def settled (before : Before) : List Piece → List Piece
  | [] => []
  | piece :: rest => piece.settled before :: settled piece.before rest

/-- After a path nothing starts with a separator. -/
theorem head?_tokensOf {pieces : List Piece} (sound : ∀ piece ∈ pieces, piece.IsSound) :
    (tokensOf .word pieces).head? ≠ some .separator := by
  cases pieces with
  | nil => simp [tokensOf]
  | cons piece rest =>
    cases piece with
    | path led words =>
      obtain ⟨nonempty, -⟩ := sound _ List.mem_cons_self
      obtain ⟨word, others, split⟩ := List.exists_cons_of_ne_nil (shorten_ne_nil nonempty)
      simp [tokensOf, Piece.tokens, split, pathTokens]
    | _ => simp [tokensOf, Piece.tokens]

/-- A path is read on into what follows its words. -/
theorem readPath_laterTokens (words : List (List Char)) (after : List Token) :
    readPath .separator (laterTokens words ++ after) =
      (words ++ (readPath .separator after).1, (readPath .separator after).2) := by
  induction words with
  | nil => rfl
  | cons word words ih =>
    have first : readPath .separator (laterTokens (word :: words) ++ after) =
        (word :: (readPath .separator (laterTokens words ++ after)).1,
          (readPath .separator (laterTokens words ++ after)).2) := rfl
    rw [first, ih]
    rfl

/-- A path ends where no separator follows. -/
theorem readPath_of_head?_ne {after : List Token} (other : after.head? ≠ some .separator) :
    readPath .separator after = ([], after) := by
  cases after with
  | nil => rfl
  | cons token rest =>
    cases token with
    | separator => exact absurd rfl other
    | _ => rfl

/-- Reduced tokens are grouped to pieces as they were written. -/
theorem pieces_tokensOf {list : List Piece} (sound : ∀ piece ∈ list, piece.IsSound)
    (before : Before) : pieces (tokensOf before list) = settled before list := by
  induction list generalizing before with
  | nil => simp [tokensOf, pieces, settled]
  | cons piece rest ih =>
    obtain ⟨here, later⟩ := List.forall_mem_cons.mp sound
    rw [tokensOf, settled, ← ih later]
    cases piece with
    | path led words =>
      obtain ⟨word, others, split⟩ := List.exists_cons_of_ne_nil (shorten_ne_nil here.1)
      have read : readPath .separator (laterTokens others ++ tokensOf .word rest) =
          (others, tokensOf .word rest) := by
        rw [readPath_laterTokens, readPath_of_head?_ne (head?_tokensOf later), List.append_nil]
      have ledRead : readPath .word (.word word :: (laterTokens others ++ tokensOf .word rest)) =
          (word :: others, tokensOf .word rest) := by
        rw [readPath, read]
      simp only [Piece.tokens, Piece.settled, Piece.before, split, pathTokens]
      cases kept : led && decide (before = .closing) with
      | true => simp [pieces, ledRead]
      | false => simp [pieces, read]
    | _ => simp [Piece.tokens, Piece.settled, pieces]

/-- Pieces are written like those that their reduced tokens are grouped to. -/
theorem render_settled (before : Before) (pieces : List Piece) :
    render before (settled before pieces) = render before pieces := by
  induction pieces generalizing before with
  | nil => rfl
  | cons piece rest ih =>
    rw [settled, render_cons, render_cons]
    cases piece with
    | path led words =>
      have lead : pathLead before (led && before = .closing) = pathLead before led := by
        cases before <;> cases led <;> rfl
      simp only [Piece.settled, Piece.text, Piece.before, lead, shorten_shorten, ih]
    | _ => simp only [Piece.settled, Piece.before, Piece.text, ih]

/-- The normal form of a regular type name is written from its reduced tokens. -/
theorem IsRegular.normalizeChars_eq {raw : List Char} (regular : IsRegular (tokenize raw)) :
    normalizeChars raw = render .other (pieces (reduced (tokenize raw))) := by
  have clean := regular.isClean (isRead_tokenize raw)
  rw [regular.reduced_eq, pieces_tokensOf clean.sound, render_settled, normalizeChars]

/-- The normal form of a regular type name is read back as its reduced tokens. -/
theorem IsRegular.tokenize_normalizeChars {raw : List Char} (regular : IsRegular (tokenize raw)) :
    tokenize (normalizeChars raw) = reduced (tokenize raw) := by
  rw [regular.reduced_eq, normalizeChars,
    (regular.isClean (isRead_tokenize raw)).tokenize_render]

/-- Normalization computes a canonical form: it is read back as the reduced tokens, it is not
changed by normalizing it again, and it is the same exactly for type names with the same reduced
tokens. -/
theorem normalize_canonical {raw : String} (regular : IsRegular (tokenize raw.toList)) :
    tokenize (normalize raw).toList = reduced (tokenize raw.toList) ∧
      normalize (normalize raw) = normalize raw ∧
      ∀ {other : String}, IsRegular (tokenize other.toList) →
        (normalize raw = normalize other ↔
          reduced (tokenize raw.toList) = reduced (tokenize other.toList)) := by
  have read : ∀ {raw : String}, IsRegular (tokenize raw.toList) →
      tokenize (normalize raw).toList = reduced (tokenize raw.toList) := by
    intro raw regular
    rw [normalize, String.toList_ofList, regular.tokenize_normalizeChars]
  have written : ∀ {raw : String}, IsRegular (tokenize raw.toList) →
      normalize raw = String.ofList (render .other (pieces (reduced (tokenize raw.toList)))) := by
    intro raw regular
    rw [normalize, regular.normalizeChars_eq]
  refine ⟨read regular, ?_, fun regular' => ⟨fun same => ?_, fun same => ?_⟩⟩
  · calc normalize (normalize raw)
        = String.ofList (render .other (pieces (tokenize (normalize raw).toList))) := rfl
      _ = normalize raw := by rw [read regular, ← written regular]
  · rw [← read regular, same, read regular']
  · rw [written regular, same, written regular']

/-- A type as source text writes it: with leading and trailing separators, one of which stands
behind the `>` of a qualified type. -/
def writtenType : String :=
  "& 'a[Box < dyn Fn(::std::vec::Vec<u8> , <T as I>::Item::) -> core::primitive::u8 + Send >;4]"

/-- The same type with the full paths of a compiler. -/
def reportedType : String :=
  "&'a [alloc::boxed::Box<dyn Fn(alloc::vec::Vec<u8>, <T as I>::Item) -> u8 + Send>; 4]"

/-- Both spellings of a type have the normal form that their reduced tokens ask for. -/
theorem normalize_canonical_spellings :
    IsRegular (tokenize writtenType.toList) ∧ IsRegular (tokenize reportedType.toList) ∧
      tokenize (normalize writtenType).toList = reduced (tokenize reportedType.toList) ∧
      normalize (normalize writtenType) = normalize reportedType := by
  have regular : IsRegular (tokenize writtenType.toList) := by decide +kernel
  have regular' : IsRegular (tokenize reportedType.toList) := by decide +kernel
  have same : reduced (tokenize writtenType.toList) = reduced (tokenize reportedType.toList) := by
    decide +kernel
  obtain ⟨read, stable, canonical⟩ := normalize_canonical regular
  exact ⟨regular, regular', read.trans same, stable.trans ((canonical regular').mpr same)⟩

end ServiceDispatch.TypeName
