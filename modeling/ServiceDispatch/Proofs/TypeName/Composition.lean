import ServiceDispatch.TypeName.Normal

/-!
# Normal forms of composed texts

A type name is read and written piece by piece, so a text that is put together is read as its parts
are, as long as no token and no path reaches across the seam. Which tokens make up a well-formed
type is not covered here.
-/

namespace ServiceDispatch.TypeName

/-- Whether two neighbouring characters can belong to one token. -/
def sticks (left right : Char) : Bool :=
  (isWordChar left || left = '\'') && isWordChar right ||
    left = ':' && right = ':' || left = '-' && right = '>'

/-- No token reaches from the end of one text into the next. -/
def Parts (first second : List Char) : Prop :=
  ∀ left right, first.getLast? = some left → second.head? = some right → sticks left right = false

instance (first second : List Char) : Decidable (Parts first second) :=
  match last : first.getLast?, head : second.head? with
  | some left, some right =>
    decidable_of_iff (sticks left right = false)
      ⟨fun apart left' right' here here' => by
        rw [last] at here
        rw [head] at here'
        obtain rfl := Option.some.inj here
        obtain rfl := Option.some.inj here'
        exact apart, fun parts => parts left right last head⟩
  | none, _ => isTrue fun _ _ here _ => by rw [last] at here; cases here
  | _, none => isTrue fun _ _ _ here => by rw [head] at here; cases here

theorem Parts.of_cons {c : Char} {rest second : List Char} (parts : Parts (c :: rest) second) :
    Parts rest second := by
  intro left right last head
  cases rest with
  | nil => cases last
  | cons next rest => exact parts left right last head

theorem Parts.of_dropWhile {first second : List Char} {p : Char → Bool}
    (parts : Parts first second) : Parts (first.dropWhile p) second := by
  induction first with
  | nil => exact parts
  | cons c rest ih =>
    rw [List.dropWhile_cons]
    split
    · exact ih parts.of_cons
    · exact parts

/-- The token that a character starts, where it does not pair with the next one. -/
theorem tokenize_cons {c : Char} {rest : List Char}
    (single : c = ':' → rest.head? ≠ some ':') (noArrow : c = '-' → rest.head? ≠ some '>') :
    tokenize (c :: rest) =
      if Text.isBlank c then tokenize rest
      else if isWordChar c then
        .word (c :: rest.takeWhile isWordChar) :: tokenize (rest.dropWhile isWordChar)
      else if c = '\'' then
        .lifetime (rest.takeWhile isWordChar) :: tokenize (rest.dropWhile isWordChar)
      else if c = '.' then .separator :: tokenize rest
      else .mark c :: tokenize rest := by
  rw [tokenize]
  · rintro after rfl rfl
    exact single rfl rfl
  · rintro after rfl rfl
    exact noArrow rfl rfl

/-- A character that does not pair with the next one does not pair across a seam either. -/
theorem Parts.head?_append_ne {c mate : Char} {rest second : List Char}
    (parts : Parts (c :: rest) second) (pairs : sticks c mate = true)
    (alone : rest.head? ≠ some mate) : (rest ++ second).head? ≠ some mate := by
  cases rest with
  | nil =>
    intro head
    have apart := parts c mate rfl head
    rw [pairs] at apart
    cases apart
  | cons next rest => exact alone

/-- A run of word characters that something of its kind starts ends before a seam. -/
theorem Parts.span_append {c : Char} {rest second : List Char} (parts : Parts (c :: rest) second)
    (starts : isWordChar c = true ∨ c = '\'') :
    (rest ++ second).takeWhile isWordChar = rest.takeWhile isWordChar ∧
      (rest ++ second).dropWhile isWordChar = rest.dropWhile isWordChar ++ second := by
  induction rest generalizing c with
  | nil =>
    cases second with
    | nil => exact ⟨rfl, rfl⟩
    | cons d second =>
      have outside : isWordChar d = false := by
        rw [← Bool.not_eq_true]
        intro inside
        have apart := parts c d rfl rfl
        obtain word | rfl := starts <;> simp_all [sticks]
      simp [outside]
  | cons d rest ih =>
    rw [List.cons_append, List.takeWhile_cons, List.dropWhile_cons, List.takeWhile_cons,
      List.dropWhile_cons]
    split
    · rename_i word
      obtain ⟨taken, dropped⟩ := ih parts.of_cons (.inl word)
      exact ⟨congrArg (d :: ·) taken, dropped⟩
    · exact ⟨rfl, rfl⟩

/-- A text that no token leaves is read by itself. -/
theorem tokenize_append {first second : List Char} (parts : Parts first second) :
    tokenize (first ++ second) = tokenize first ++ tokenize second := by
  have single : ∀ {c rest}, (∀ after, c = ':' → rest = ':' :: after → False) →
      Parts (c :: rest) second → c = ':' → (rest ++ second).head? ≠ some ':' := by
    rintro c rest alone parts rfl
    refine parts.head?_append_ne (by decide) fun head => ?_
    obtain ⟨after, rfl⟩ := List.head?_eq_some_iff.mp head
    exact alone after rfl rfl
  have noArrow : ∀ {c rest}, (∀ after, c = '-' → rest = '>' :: after → False) →
      Parts (c :: rest) second → c = '-' → (rest ++ second).head? ≠ some '>' := by
    rintro c rest alone parts rfl
    refine parts.head?_append_ne (by decide) fun head => ?_
    obtain ⟨after, rfl⟩ := List.head?_eq_some_iff.mp head
    exact alone after rfl rfl
  fun_induction tokenize first with
  | case1 => rfl
  | case2 rest ih | case3 rest ih =>
    rw [List.cons_append, List.cons_append, tokenize, ih parts.of_cons.of_cons]
    rfl
  | case4 c rest alone alone' blank ih =>
    rw [List.cons_append, tokenize_cons (single alone parts) (noArrow alone' parts), if_pos blank,
      ih parts.of_cons]
  | case5 c rest alone alone' visible word ih =>
    obtain ⟨taken, dropped⟩ := parts.span_append (.inl word)
    rw [List.cons_append, tokenize_cons (single alone parts) (noArrow alone' parts), if_neg visible,
      if_pos word, taken, dropped, ih parts.of_cons.of_dropWhile]
    rfl
  | case6 rest alone alone' visible noWord ih =>
    obtain ⟨taken, dropped⟩ := parts.span_append (.inr rfl)
    rw [List.cons_append, tokenize_cons (single alone parts) (noArrow alone' parts), if_neg visible,
      if_neg noWord, if_pos rfl, taken, dropped, ih parts.of_cons.of_dropWhile]
    rfl
  | case7 rest alone alone' visible noWord noQuote ih =>
    rw [List.cons_append, tokenize_cons (single alone parts) (noArrow alone' parts), if_neg visible,
      if_neg noWord, if_neg noQuote, if_pos rfl, ih parts.of_cons]
    rfl
  | case8 c rest alone alone' visible noWord noQuote noDot ih =>
    rw [List.cons_append, tokenize_cons (single alone parts) (noArrow alone' parts), if_neg visible,
      if_neg noWord, if_neg noQuote, if_neg noDot, ih parts.of_cons]
    rfl

/-- Whether a token can be part of a path. -/
def Token.isPathPart : Token → Bool
  | .word _ | .separator => true
  | _ => false

/-- No path reaches from the end of some tokens into the next ones. -/
def Cuts (first second : List Token) : Prop :=
  ∀ left right, first.getLast? = some left → second.head? = some right →
    left.isPathPart = true → right.isPathPart = false

theorem Cuts.of_cons {token : Token} {rest second : List Token}
    (cuts : Cuts (token :: rest) second) :
    Cuts rest second := by
  intro left right last head
  cases rest with
  | nil => cases last
  | cons next rest => exact cuts left right last head

/-- Nothing is read of tokens that do not go on with a path. -/
theorem readPath_of_head {tokens : List Token} (awaited : Awaited)
    (other : ∀ token, tokens.head? = some token → token.isPathPart = false) :
    readPath awaited tokens = ([], tokens) := by
  cases tokens with
  | nil => cases awaited <;> rfl
  | cons token rest =>
    have stops := other token rfl
    cases token with
    | word text => cases stops
    | separator => cases stops
    | _ => cases awaited <;> rfl

/-- A path that is cut off at a seam is read by itself, and so is what follows it. -/
theorem readPath_append {part : Token} {tokens more : List Token} (awaited : Awaited)
    (isPart : part.isPathPart = true) (cuts : Cuts (part :: tokens) more) :
    readPath awaited (tokens ++ more) =
        ((readPath awaited tokens).1, (readPath awaited tokens).2 ++ more) ∧
      Cuts (readPath awaited tokens).2 more := by
  induction tokens generalizing part awaited with
  | nil =>
    have ends : readPath awaited ([] ++ more) = ([], more) :=
      readPath_of_head awaited fun token head => cuts part token rfl head isPart
    have nothing : readPath awaited [] = ([], []) := by cases awaited <;> rfl
    rw [ends, nothing]
    exact ⟨rfl, cuts.of_cons⟩
  | cons token rest ih =>
    have stays : ∀ {awaited}, readPath awaited (token :: rest) = ([], token :: rest) →
        readPath awaited (token :: (rest ++ more)) = ([], token :: (rest ++ more)) →
        readPath awaited (token :: rest ++ more) =
            ((readPath awaited (token :: rest)).1, (readPath awaited (token :: rest)).2 ++ more) ∧
          Cuts (readPath awaited (token :: rest)).2 more := by
      intro awaited here there
      rw [List.cons_append, here, there]
      exact ⟨rfl, cuts.of_cons⟩
    cases token with
    | separator =>
      obtain ⟨read, later⟩ := ih .word rfl cuts.of_cons
      have further : ∀ tokens, readPath awaited (.separator :: tokens) = readPath .word tokens := by
        intro tokens
        cases awaited <;> rfl
      rw [List.cons_append, further, further]
      exact ⟨read, later⟩
    | word text =>
      cases awaited with
      | separator => exact stays rfl rfl
      | word =>
        obtain ⟨read, later⟩ := ih .separator rfl cuts.of_cons
        have further : ∀ tokens, readPath .word (.word text :: tokens) =
            (text :: (readPath .separator tokens).1, (readPath .separator tokens).2) :=
          fun _ => rfl
        rw [List.cons_append, further, further, read]
        exact ⟨rfl, later⟩
    | _ => cases awaited <;> exact stays rfl rfl

/-- Tokens that no path leaves are grouped by themselves. -/
theorem pieces_append {first second : List Token} (cuts : Cuts first second) :
    pieces (first ++ second) = pieces first ++ pieces second := by
  fun_induction pieces first with
  | case1 => rfl
  | case2 text rest read ih =>
    obtain ⟨reads, later⟩ := readPath_append .separator rfl cuts
    rw [List.cons_append, pieces, reads, ih later]
    rfl
  | case3 rest read ih =>
    obtain ⟨reads, later⟩ := readPath_append .word rfl cuts
    rw [List.cons_append, pieces, reads, ih later]
    rfl
  | case4 name rest ih | case5 rest ih | case6 c rest ih =>
    rw [List.cons_append, pieces, ih cuts.of_cons]
    rfl

/-- What a piece asks of the one after it. -/
def Piece.before : Piece → Before
  | .path _ _ | .lifetime _ => .word
  | .arrow => .other
  | .mark c => if c = '>' then .closing else .other

/-- What the last of some pieces asks of the next one; with none, what was asked before them. -/
def beforeNext (before : Before) (pieces : List Piece) : Before :=
  (pieces.getLast?.map Piece.before).getD before

/-- Pieces are written one after another. -/
theorem render_append (before : Before) (first second : List Piece) :
    render before (first ++ second) =
      render before first ++ render (beforeNext before first) second := by
  induction first generalizing before with
  | nil => rfl
  | cons piece rest ih =>
    have next : beforeNext before (piece :: rest) = beforeNext piece.before rest := by
      cases rest <;> simp [beforeNext, List.getLast?_cons]
    cases piece <;> simp [render, ih, next, Piece.before]

end ServiceDispatch.TypeName
