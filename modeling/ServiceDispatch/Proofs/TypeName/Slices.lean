import ServiceDispatch.Proofs.TypeName.ModulePath

/-!
# Tokens as slices of a text

A type name is scanned character by character, and its words and lifetimes are slices of the text
between two bytes. A slice that starts or stops inside of a character could not be taken. Whatever
the text is, all its slices are taken, in order and without overlap, and the tokens together spell
the text but for its white space. What the tokens mean is not covered here.
-/

namespace ServiceDispatch.TypeName

/-- A character in the form in which tokens keep it: a dot is the separator `::`. -/
def keptForm (c : Char) : List Char := if c = '.' then [':', ':'] else [c]

/-- What tokens keep of a text: all but its white space, with `::` for every dot. -/
def keptText (text : List Char) : List Char :=
  (text.filter fun c => !Text.isBlank c).flatMap keptForm

theorem keptText_append (first second : List Char) :
    keptText (first ++ second) = keptText first ++ keptText second := by
  rw [keptText, List.filter_append, List.flatMap_append]
  rfl

theorem keptText_cons (c : Char) (rest : List Char) :
    keptText (c :: rest) = keptText [c] ++ keptText rest :=
  keptText_append [c] rest

/-- Word characters are kept as they are. -/
theorem keptText_of_isWordChar {text : List Char} (each : ∀ c ∈ text, isWordChar c = true) :
    keptText text = text := by
  induction text with
  | nil => rfl
  | cons c rest ih =>
    obtain ⟨word, others⟩ := List.forall_mem_cons.mp each
    have noDot : c ≠ '.' := by
      rintro rfl
      exact absurd word (by decide)
    rw [keptText_cons, ih others]
    simp [keptText, keptForm, isBlank_of_isWordChar word, noDot]

/-- A run of word characters is kept as it is, in front of whatever follows it. -/
theorem keptText_run (rest : List Char) :
    keptText rest = rest.takeWhile isWordChar ++ keptText (rest.dropWhile isWordChar) := by
  have run := keptText_of_isWordChar fun c (mem : c ∈ rest.takeWhile isWordChar) =>
    List.mem_takeWhile_imp mem
  calc keptText rest
      = keptText (rest.takeWhile isWordChar ++ rest.dropWhile isWordChar) := by
        rw [List.takeWhile_append_dropWhile]
    _ = rest.takeWhile isWordChar ++ keptText (rest.dropWhile isWordChar) := by
        rw [keptText_append, run]

/-- The tokens of a text spell what they keep of it. -/
theorem flatMap_text_tokenize (text : List Char) :
    (tokenize text).flatMap Token.text = keptText text := by
  fun_induction tokenize text with
  | case1 => rfl
  | case2 rest ih | case3 rest ih =>
    rw [List.flatMap_cons, ih]
    rfl
  | case4 c rest alone alone' blank ih =>
    rw [ih, keptText_cons]
    simp [keptText, blank]
  | case5 c rest alone alone' visible word ih =>
    have single : keptText [c] = [c] := keptText_of_isWordChar (by simpa using word)
    rw [List.flatMap_cons, ih, keptText_cons, keptText_run rest, single]
    rfl
  | case6 rest alone alone' visible noWord ih =>
    rw [List.flatMap_cons, ih, keptText_cons, keptText_run rest]
    rfl
  | case7 rest alone alone' visible noWord noQuote ih =>
    rw [List.flatMap_cons, ih]
    rfl
  | case8 c rest alone alone' visible noWord noQuote noDot ih =>
    rw [List.flatMap_cons, ih, keptText_cons]
    simp [keptText, keptForm, visible, noDot, Token.text]

/-- A place in a text, counted in bytes, at which a character starts or the text ends. -/
def IsBoundary (raw : String) (place : Nat) : Prop := String.Pos.Raw.IsValid raw ⟨place⟩

instance (raw : String) (place : Nat) : Decidable (IsBoundary raw place) :=
  inferInstanceAs (Decidable (String.Pos.Raw.IsValid raw ⟨place⟩))

/-- The part of a text between two places. There is none if one of them is beyond the text or inside
of a character, or if they are out of order. -/
def slice? (raw : String) (start stop : Nat) : Option String :=
  if slices : IsBoundary raw start ∧ IsBoundary raw stop ∧ start ≤ stop then
    some (raw.extract (raw.pos ⟨start⟩ slices.1) (raw.pos ⟨stop⟩ slices.2.1))
  else none

/-- A byte inside of a character bounds no slice. -/
example : slice? "L∃∀N" 1 4 = some "∃" ∧ slice? "L∃∀N" 2 4 = none := by
  decide

theorem isBoundary_append (before after : String) :
    IsBoundary (before ++ after) before.utf8ByteSize :=
  String.Pos.Raw.isValid_iff_exists_append.mpr ⟨before, after, rfl, rfl⟩

theorem utf8ByteSize_le_append (before after : String) :
    before.utf8ByteSize ≤ (before ++ after).utf8ByteSize := by
  rw [String.utf8ByteSize_append]
  exact Nat.le_add_right _ _

theorem utf8ByteSize_le_push (before : String) (c : Char) :
    before.utf8ByteSize ≤ (before.push c).utf8ByteSize := by
  rw [String.utf8ByteSize_push]
  exact Nat.le_add_right _ _

/-- What stands between two texts is the slice from the end of one to the start of the other. -/
theorem slice?_append (before middle after : String) :
    slice? (before ++ middle ++ after) before.utf8ByteSize (before ++ middle).utf8ByteSize =
      some middle := by
  have start : IsBoundary (before ++ middle ++ after) before.utf8ByteSize := by
    rw [String.append_assoc]
    exact isBoundary_append _ _
  have stop := isBoundary_append (before ++ middle) after
  rw [slice?, dif_pos ⟨start, stop, utf8ByteSize_le_append _ _⟩, Option.some_inj,
    ← String.toByteArray_inj]
  calc (before ++ middle ++ after).toByteArray.extract before.utf8ByteSize
        (before ++ middle).utf8ByteSize
      = (before ++ middle).toByteArray.extract before.utf8ByteSize
          (before ++ middle).utf8ByteSize := by
        rw [String.toByteArray_append]
        exact ByteArray.extract_append_size_left
    _ = middle.toByteArray := by
        rw [String.toByteArray_append, String.utf8ByteSize_append]
        exact ByteArray.extract_append_eq_right rfl rfl

/-- A slice that is taken starts and stops at boundaries. -/
theorem isBoundary_of_slice? {raw text : String} {start stop : Nat}
    (taken : slice? raw start stop = some text) : IsBoundary raw start ∧ IsBoundary raw stop := by
  rw [slice?] at taken
  split at taken
  · rename_i slices
    exact ⟨slices.1, slices.2.1⟩
  · cases taken

/-- A token by the places in the text between which its slice is taken. -/
inductive Extent where
  /-- A word. -/
  | word (start stop : Nat)
  /-- A lifetime, by its name without the quote. -/
  | lifetime (start stop : Nat)
  /-- A path separator. -/
  | separator
  /-- The arrow before a result type. -/
  | arrow
  /-- Any other character. -/
  | mark (c : Char)
  deriving DecidableEq, Repr

namespace Extent

/-- The places where the slice of a token starts and stops. -/
def places : Extent → List Nat
  | .word start stop | .lifetime start stop => [start, stop]
  | _ => []

/-- The token itself, if its slice can be taken. -/
def token? (raw : String) : Extent → Option Token
  | .word start stop => (slice? raw start stop).map fun text => .word text.toList
  | .lifetime start stop => (slice? raw start stop).map fun text => .lifetime text.toList
  | .separator => some .separator
  | .arrow => some .arrow
  | .mark c => some (.mark c)

theorem isBoundary_of_token? {raw : String} {extent : Extent} {token : Token}
    (makes : extent.token? raw = some token) :
    ∀ place ∈ extent.places, IsBoundary raw place := by
  cases extent with
  | word start stop | lifetime start stop =>
    obtain ⟨text, taken, -⟩ := Option.map_eq_some_iff.mp makes
    simpa [places] using isBoundary_of_slice? taken
  | _ => simp [places]

end Extent

/-- The characters of a text that starts at a place, each with the place of its first byte. -/
def placed (start : Nat) : List Char → List (Nat × Char)
  | [] => []
  | c :: rest => (start, c) :: placed (start + c.utf8Size) rest

/-- The character that comes next. -/
def upcoming (characters : List (Nat × Char)) : Option Char := characters.head?.map Prod.snd

/-- Passes over word characters. The answer is the place where the last of them ends, or the given
one if there are none, and the characters left over. -/
def passWord (stop : Nat) : List (Nat × Char) → Nat × List (Nat × Char)
  | [] => (stop, [])
  | (place, c) :: rest =>
    if isWordChar c then passWord (place + c.utf8Size) rest else (stop, (place, c) :: rest)

theorem passWord_length_le (stop : Nat) (characters : List (Nat × Char)) :
    (passWord stop characters).2.length ≤ characters.length := by
  fun_induction passWord stop characters with
  | case1 => exact Nat.le_refl _
  | case2 stop place c rest word ih => exact Nat.le_succ_of_le ih
  | case3 stop place c rest noWord => exact Nat.le_refl _

/-- Scans characters for tokens. -/
def scan : List (Nat × Char) → List Extent
  | [] => []
  | (start, c) :: rest =>
    if Text.isBlank c then scan rest
    else if isWordChar c ∨ c = '\'' then
      (if c = '\'' then .lifetime (start + 1) (passWord (start + c.utf8Size) rest).1
        else .word start (passWord (start + c.utf8Size) rest).1) ::
          scan (passWord (start + c.utf8Size) rest).2
    else if c = ':' ∧ upcoming rest = some ':' then .separator :: scan rest.tail
    else if c = '.' then .separator :: scan rest
    else if c = '-' ∧ upcoming rest = some '>' then .arrow :: scan rest.tail
    else .mark c :: scan rest
  termination_by characters => characters.length
  decreasing_by
    all_goals simp only [List.length_cons, List.length_tail]
    all_goals have := passWord_length_le (start + c.utf8Size) rest; omega

/-- The tokens of a text by their places. -/
def extents (raw : String) : List Extent := scan (placed 0 raw.toList)

/-- The text up to the end of the run of word characters that follows a place, which is given by the
text before it. -/
def runEnd (before : String) (rest : List Char) : String :=
  before ++ String.ofList (rest.takeWhile isWordChar)

section Places

variable {before : String} {c : Char} {rest : List Char}

theorem append_ofList_cons :
    before ++ String.ofList (c :: rest) = before.push c ++ String.ofList rest := by
  rw [String.ofList_cons, ← String.append_assoc, String.append_singleton]

theorem append_ofList_run :
    before ++ String.ofList rest =
      runEnd before rest ++ String.ofList (rest.dropWhile isWordChar) := by
  rw [runEnd, String.append_assoc, ← String.ofList_append, List.takeWhile_append_dropWhile]

/-- The run that follows a text is the slice up to its end. -/
theorem slice?_run (after : String) :
    slice? (runEnd before rest ++ after) before.utf8ByteSize (runEnd before rest).utf8ByteSize =
      some (String.ofList (rest.takeWhile isWordChar)) :=
  slice?_append _ _ _

/-- So is a run together with the character in front of it. -/
theorem slice?_cons_run (after : String) :
    slice? (runEnd (before.push c) rest ++ after) before.utf8ByteSize
        (runEnd (before.push c) rest).utf8ByteSize =
      some (String.ofList (c :: rest.takeWhile isWordChar)) := by
  rw [runEnd, ← append_ofList_cons]
  exact slice?_append _ _ _

theorem placed_cons :
    placed before.utf8ByteSize (c :: rest) =
      (before.utf8ByteSize, c) :: placed (before.push c).utf8ByteSize rest := by
  rw [placed, String.utf8ByteSize_push]

/-- Characters that do not stand side by side in a text are not scanned side by side. -/
theorem not_upcoming {first mate : Char} {start : Nat}
    (apart : ∀ after, c = first → rest = mate :: after → False) :
    ¬ (c = first ∧ upcoming (placed start rest) = some mate) := by
  rintro ⟨same, next⟩
  cases rest with
  | nil => cases next
  | cons d after =>
    obtain rfl : d = mate := Option.some.inj next
    exact apart after same rfl

theorem passWord_placed :
    passWord before.utf8ByteSize (placed before.utf8ByteSize rest) =
      ((runEnd before rest).utf8ByteSize,
        placed (runEnd before rest).utf8ByteSize (rest.dropWhile isWordChar)) := by
  induction rest generalizing before with
  | nil => simp [placed, passWord, runEnd]
  | cons c rest ih =>
    rw [placed_cons, passWord, ← String.utf8ByteSize_push, runEnd, List.takeWhile_cons,
      List.dropWhile_cons]
    split
    · rw [ih, append_ofList_cons]
      rfl
    · rw [String.ofList_nil, String.append_empty, placed_cons]

/-- A word or a lifetime is scanned up to the end of its run. -/
theorem scan_run (visible : ¬ Text.isBlank c) (starts : isWordChar c ∨ c = '\'') :
    scan (placed before.utf8ByteSize (c :: rest)) =
      (if c = '\'' then
          .lifetime (before.utf8ByteSize + 1) (runEnd (before.push c) rest).utf8ByteSize
        else .word before.utf8ByteSize (runEnd (before.push c) rest).utf8ByteSize) ::
          scan (placed (runEnd (before.push c) rest).utf8ByteSize (rest.dropWhile isWordChar)) := by
  rw [placed_cons, scan, if_neg visible, if_pos starts, ← String.utf8ByteSize_push, passWord_placed]

end Places

/-- What is scanned makes some tokens of a text, by slices that follow one another from a place on.
-/
structure IsScan (raw : String) (start : Nat) (extents : List Extent) (tokens : List Token) :
    Prop where
  /-- Every slice can be taken. -/
  tokens : extents.map (Extent.token? raw) = tokens.map some
  /-- No place lies before an earlier one. -/
  ordered : (start :: extents.flatMap Extent.places).Pairwise (· ≤ ·)

namespace IsScan

variable {raw : String} {start stop : Nat} {extent : Extent} {token : Token}
  {extents : List Extent} {tokens : List Token}

theorem of_le (isScan : IsScan raw stop extents tokens) (ordered : start ≤ stop) :
    IsScan raw start extents tokens := by
  obtain ⟨after, others⟩ := List.pairwise_cons.mp isScan.ordered
  exact ⟨isScan.tokens, .cons (fun place mem => ordered.trans (after place mem)) others⟩

/-- The slice of a token in front has to stop where the others may start. -/
theorem cons (isScan : IsScan raw stop extents tokens) (makes : extent.token? raw = some token)
    (ordered : (start :: (extent.places ++ [stop])).Pairwise (· ≤ ·)) :
    IsScan raw start (extent :: extents) (token :: tokens) where
  tokens := by simp [makes, isScan.tokens]
  ordered := by
    obtain ⟨after, others⟩ := List.pairwise_cons.mp isScan.ordered
    obtain ⟨front, places⟩ := List.pairwise_cons.mp ordered
    obtain ⟨inside, -, upTo⟩ := List.pairwise_append.mp places
    have stops : ∀ place ∈ extent.places, place ≤ stop :=
      fun place mem => upTo place mem stop List.mem_cons_self
    have starts : start ≤ stop := front stop (List.mem_append_right _ List.mem_cons_self)
    rw [List.flatMap_cons]
    refine .cons (List.forall_mem_append.mpr ⟨?_, ?_⟩)
      (List.pairwise_append.mpr ⟨inside, others, ?_⟩)
    · exact fun place mem => front place (List.mem_append_left _ mem)
    · exact fun place mem => starts.trans (after place mem)
    · exact fun place mem other mem' => (stops place mem).trans (after other mem')

/-- A slice may start at any place up to which there is none. -/
theorem cons_slice {first : Nat} (isScan : IsScan raw stop extents tokens)
    (makes : extent.token? raw = some token) (slice : extent.places = [first, stop])
    (starts : start ≤ first) (stops : first ≤ stop) :
    IsScan raw start (extent :: extents) (token :: tokens) :=
  isScan.cons makes (by simp [slice, starts, stops, starts.trans stops])

/-- A token without a slice stands in front of all that is behind it. -/
theorem cons_unsliced (isScan : IsScan raw stop extents tokens)
    (makes : extent.token? raw = some token) (unsliced : extent.places = [])
    (ordered : start ≤ stop) :
    IsScan raw start (extent :: extents) (token :: tokens) :=
  isScan.cons makes (by simpa [unsliced] using ordered)

/-- Wherever a slice starts or stops is a boundary. -/
theorem isBoundary (isScan : IsScan raw start extents tokens) :
    ∀ extent ∈ extents, ∀ place ∈ extent.places, IsBoundary raw place := by
  intro extent found
  have mem : extent.token? raw ∈ tokens.map some := isScan.tokens ▸ List.mem_map_of_mem found
  obtain ⟨token, -, makes⟩ := List.mem_map.mp mem
  exact extent.isBoundary_of_token? makes.symm

end IsScan

/-- Scanning a text finds the tokens that the text is read to. -/
theorem isScan_scan (before : String) (text : List Char) :
    IsScan (before ++ String.ofList text) before.utf8ByteSize
      (scan (placed before.utf8ByteSize text)) (tokenize text) := by
  have runs : ∀ {before : String} {c rest},
      before.utf8ByteSize ≤ (runEnd (before.push c) rest).utf8ByteSize :=
    (utf8ByteSize_le_push _ _).trans (utf8ByteSize_le_append _ _)
  -- what a token takes from the text is moved to `before`, so the whole text stays the same
  fun_induction tokenize text generalizing before with
  | case1 =>
    rw [placed, scan]
    exact ⟨rfl, List.pairwise_singleton _ _⟩
  | case2 rest ih =>
    rw [placed_cons, placed_cons, scan, if_neg (by decide), if_neg (by decide), if_pos ⟨rfl, rfl⟩,
      append_ofList_cons, append_ofList_cons]
    exact (ih _).cons_unsliced rfl rfl ((utf8ByteSize_le_push _ _).trans (utf8ByteSize_le_push _ _))
  | case3 rest ih =>
    rw [placed_cons, placed_cons, scan, if_neg (by decide), if_neg (by decide), if_neg (by simp),
      if_neg (by decide), if_pos ⟨rfl, rfl⟩, append_ofList_cons, append_ofList_cons]
    exact (ih _).cons_unsliced rfl rfl ((utf8ByteSize_le_push _ _).trans (utf8ByteSize_le_push _ _))
  | case4 c rest alone alone' blank ih =>
    rw [placed_cons, scan, if_pos blank, append_ofList_cons]
    exact (ih _).of_le (utf8ByteSize_le_push _ _)
  | case5 c rest alone alone' visible word ih =>
    have noQuote : c ≠ '\'' := by
      rintro rfl
      exact absurd word (by decide)
    rw [scan_run visible (.inl word), if_neg noQuote, append_ofList_cons, append_ofList_run]
    refine (ih _).cons_slice ?_ rfl (Nat.le_refl _) runs
    rw [Extent.token?, slice?_cons_run, Option.map_some, String.toList_ofList]
  | case6 rest alone alone' visible noWord ih =>
    -- a name starts at a boundary only because the quote is a single byte
    have quote : before.utf8ByteSize + 1 = (before.push '\'').utf8ByteSize := by
      rw [String.utf8ByteSize_push]
      rfl
    rw [scan_run visible (.inr rfl), if_pos rfl, append_ofList_cons, append_ofList_run, quote]
    refine (ih _).cons_slice ?_ rfl (utf8ByteSize_le_push _ _) (utf8ByteSize_le_append _ _)
    rw [Extent.token?, slice?_run, Option.map_some, String.toList_ofList]
  | case7 rest alone alone' visible noWord noQuote ih =>
    rw [placed_cons, scan, if_neg visible, if_neg (by decide), if_neg (by simp), if_pos rfl,
      append_ofList_cons]
    exact (ih _).cons_unsliced rfl rfl (utf8ByteSize_le_push _ _)
  | case8 c rest alone alone' visible noWord noQuote noDot ih =>
    rw [placed_cons, scan, if_neg visible, if_neg (not_or.mpr ⟨noWord, noQuote⟩),
      if_neg (not_upcoming alone), if_neg noDot, if_neg (not_upcoming alone'), append_ofList_cons]
    exact (ih _).cons_unsliced rfl rfl (utf8ByteSize_le_push _ _)

/-- The tokens of a text hold all of it but its white space, as slices that can be taken. -/
structure KeepsText (raw : String) : Prop where
  /-- Together they spell the text without its white space, and with `::` for every dot. -/
  text : (tokenize raw.toList).flatMap Token.text = keptText raw.toList
  /-- They are the tokens that scanning the text finds, all slices taken. -/
  tokens : (extents raw).map (Extent.token? raw) = (tokenize raw.toList).map some
  /-- The slices lie within the text, and no character is cut through. -/
  inside : ∀ place ∈ (extents raw).flatMap Extent.places,
    IsBoundary raw place ∧ place ≤ raw.utf8ByteSize
  /-- No slice goes back behind the one before it. -/
  ordered : ((extents raw).flatMap Extent.places).Pairwise (· ≤ ·)

theorem keepsText (raw : String) : KeepsText raw := by
  have isScan : IsScan raw 0 (extents raw) (tokenize raw.toList) := by
    have scanned := isScan_scan "" raw.toList
    rwa [String.empty_append, String.ofList_toList] at scanned
  refine ⟨flatMap_text_tokenize _, isScan.tokens, fun place mem => ?_,
    (List.pairwise_cons.mp isScan.ordered).2⟩
  obtain ⟨extent, found, isPlace⟩ := List.mem_flatMap.mp mem
  have boundary := isScan.isBoundary extent found place isPlace
  exact ⟨boundary, boundary.le_utf8ByteSize⟩

end ServiceDispatch.TypeName
