import ServiceDispatch.Proofs.TypeName.Canonical
import ServiceDispatch.Proofs.TypeName.Slices

/-!
# Reading and writing by index

The normal form of a text can be written in turns, by the index of the next token: a path is read up
to an index of its own, from which writing goes on. Every turn goes on by one token at least and
none goes beyond the last one, so writing ends and has passed each token once, whatever the text is.
The work of a single turn is not counted here.
-/

namespace ServiceDispatch.TypeName

/-- The word that a token is. -/
def Token.word? : Token → Option (List Char)
  | .word text => some text
  | _ => none

/-- Reads a path from an index on. The answer is the words in order and the index of the first token
left over; separators before, between and after the words are skipped. -/
def readPathAt (tokens : List Token) (awaited : Awaited) (index : Nat) : List (List Char) × Nat :=
  if inside : index < tokens.length then
    match tokens[index], awaited with
    | .word text, .word =>
      let read := readPathAt tokens .separator (index + 1)
      (text :: read.1, read.2)
    | .separator, _ => readPathAt tokens .word (index + 1)
    | _, _ => ([], index)
  else ([], index)
  termination_by tokens.length - index

/-- Reading a path passes a stretch of tokens and answers the words in it. -/
structure PassesPath (tokens : List Token) (start : Nat) (words : List (List Char)) (next : Nat) :
    Prop where
  /-- The stretch ends no earlier than it starts, -/
  le : start ≤ next
  /-- and within the tokens. -/
  within : next ≤ tokens.length
  /-- All of it are words and separators, -/
  parts : ∀ token ∈ tokens.extract start next, token.isPathPart = true
  /-- and the words among them are the answer, in order. -/
  words : words = (tokens.extract start next).filterMap Token.word?

/-- Reading a path from an index on goes on to a later index, and reads what stands there. -/
structure ReadsPath (tokens : List Token) (start : Nat) : Prop where
  /-- Some token is read. -/
  advances : start < (readPathAt tokens .word start).2
  /-- Only separators are skipped. -/
  passes : PassesPath tokens start (readPathAt tokens .word start).1
    (readPathAt tokens .word start).2
  /-- The same is read off the tokens from that index on. -/
  reads : readPath .word (tokens.drop start) =
    ((readPathAt tokens .word start).1, tokens.drop (readPathAt tokens .word start).2)

section Paths

variable {tokens : List Token} {index next : Nat}

theorem extract_of_lt (inside : index < tokens.length) (later : index < next) :
    tokens.extract index next = tokens[index] :: tokens.extract (index + 1) next := by
  have count : next - index = next - (index + 1) + 1 := by omega
  rw [List.extract_eq_take_drop, List.extract_eq_take_drop, List.drop_eq_getElem_cons inside, count,
    List.take_succ_cons]

theorem PassesPath.nil (within : index ≤ tokens.length) : PassesPath tokens index [] index where
  le := Nat.le_refl _
  within := within
  parts := by simp
  words := by simp

/-- A word or a separator in front is passed as well. -/
theorem PassesPath.cons {words : List (List Char)}
    (passes : PassesPath tokens (index + 1) words next) (inside : index < tokens.length)
    (isPart : tokens[index].isPathPart = true) :
    PassesPath tokens index (tokens[index].word?.toList ++ words) next := by
  have stretch := extract_of_lt inside passes.le
  refine ⟨(Nat.le_succ _).trans passes.le, passes.within, ?_, ?_⟩
  · rw [stretch]
    exact List.forall_mem_cons.mpr ⟨isPart, passes.parts⟩
  · rw [stretch, List.filterMap_cons, ← passes.words]
    cases tokens[index].word? <;> rfl

theorem passesPath_readPathAt (awaited : Awaited) (within : index ≤ tokens.length) :
    PassesPath tokens index (readPathAt tokens awaited index).1
      (readPathAt tokens awaited index).2 := by
  fun_induction readPathAt tokens awaited index with
  | case1 index inside text here read ih =>
    have passes := (ih inside).cons inside (by rw [here]; rfl)
    rwa [here] at passes
  | case2 awaited index inside here ih =>
    have passes := (ih inside).cons inside (by rw [here]; rfl)
    rwa [here] at passes
  | case3 awaited index inside noSeparator noWord => exact PassesPath.nil within
  | case4 awaited index outside => exact PassesPath.nil within

/-- Reading a path from an index on is reading it off the tokens from there on. -/
theorem readPath_drop (tokens : List Token) (awaited : Awaited) (index : Nat) :
    readPath awaited (tokens.drop index) =
      ((readPathAt tokens awaited index).1, tokens.drop (readPathAt tokens awaited index).2) := by
  fun_induction readPathAt tokens awaited index with
  | case1 index inside text here read ih =>
    rw [List.drop_eq_getElem_cons inside, here, readPath, ih]
  | case2 awaited index inside here ih =>
    rw [List.drop_eq_getElem_cons inside, here, readPath, ih]
  | case3 awaited index inside noSeparator noWord =>
    rw [List.drop_eq_getElem_cons inside]
    cases here : tokens[index] with
    | word text =>
      cases awaited with
      | word => exact absurd rfl (noWord text here)
      | separator => rfl
    | separator => exact absurd here noSeparator
    | _ => cases awaited <;> rfl
  | case4 awaited index outside =>
    rw [List.drop_eq_nil_of_le (by omega)]
    cases awaited <;> rfl

/-- A path that starts at a word or a separator holds that token. -/
theorem readsPath_of_isPathPart (inside : index < tokens.length)
    (isPart : tokens[index].isPathPart = true) : ReadsPath tokens index where
  advances := by
    rw [readPathAt, dif_pos inside]
    split
    · exact (passesPath_readPathAt .separator inside).le
    · exact (passesPath_readPathAt .word inside).le
    · rename_i noSeparator noWord
      cases here : tokens[index] with
      | word text => exact absurd rfl (noWord text here)
      | separator => exact absurd here noSeparator
      | _ =>
        rw [here] at isPart
        cases isPart
  passes := passesPath_readPathAt .word inside.le
  reads := readPath_drop tokens .word index

/-- No separator stands where a path has ended. -/
theorem getElem?_readPathAt (tokens : List Token) (awaited : Awaited) (index : Nat) :
    tokens[(readPathAt tokens awaited index).2]? ≠ some .separator := by
  have ends := head?_readPath awaited (tokens.drop index)
  rwa [readPath_drop, List.head?_drop] at ends

/-- A word or a separator starts a path. -/
theorem pieces_of_isPathPart {token : Token} {rest : List Token}
    (isPart : token.isPathPart = true) :
    pieces (token :: rest) =
      .path (decide (token = .separator)) (readPath .word (token :: rest)).1 ::
        pieces (readPath .word (token :: rest)).2 := by
  cases token with
  | word text | separator =>
    rw [pieces, readPath]
    simp
  | _ => cases isPart

end Paths

/-- What writing a normal form has come to. -/
structure Writing where
  /-- The index of the next token. -/
  index : Nat
  /-- The text so far. -/
  out : List Char
  /-- Whether a path or a lifetime was written last. -/
  afterWord : Bool

namespace Writing

/-- Nothing has been written yet. -/
def fresh : Writing := ⟨0, [], false⟩

/-- The blank that keeps a word apart from a word before it. -/
def blank (state : Writing) : List Char := if state.afterWord then [' '] else []

/-- What is written in front of a path that starts with a token. -/
def lead (state : Writing) (token : Token) : List Char :=
  if token = .separator ∧ state.out.getLast? = some '>' then ['.'] else state.blank

/-- One turn of writing, at the next token. -/
def turn (tokens : List Token) (state : Writing) (token : Token) : Writing :=
  match token with
  | .word _ | .separator =>
    let read := readPathAt tokens .word state.index
    ⟨read.2, state.out ++ (state.lead token ++ joinSegments (shorten read.1)), true⟩
  | .lifetime name => ⟨state.index + 1, state.out ++ (state.blank ++ '\'' :: name), true⟩
  | .arrow => ⟨state.index + 1, state.out ++ [' ', '-', '>', ' '], false⟩
  | .mark c => ⟨state.index + 1, state.out ++ markText c, false⟩

/-- The next turn, if there is a next token. -/
def step? (tokens : List Token) (state : Writing) : Option Writing :=
  if inside : state.index < tokens.length then some (state.turn tokens tokens[state.index])
  else none

/-- Writing takes turns until there is no next token. What a run comes to are the indices that each
turn has passed, and the state in the end. -/
inductive Runs (tokens : List Token) : Writing → List (List Nat) → Writing → Prop where
  /-- There is no next token. -/
  | done {state : Writing} (ended : state.step? tokens = none) : Runs tokens state [] state
  /-- A turn passes all indices up to that from which the next turn goes on. -/
  | turn {state next final : Writing} {visits : List (List Nat)}
      (goesOn : state.step? tokens = some next) (runs : Runs tokens next visits final) :
      Runs tokens state (List.range' state.index (next.index - state.index) :: visits) final

variable {tokens : List Token} {state next final : Writing} {visits : List (List Nat)}
  {before : Before}

theorem step?_eq_some (goesOn : state.step? tokens = some next) :
    ∃ inside : state.index < tokens.length, next = state.turn tokens tokens[state.index] := by
  rw [step?] at goesOn
  split at goesOn
  · rename_i inside
    exact ⟨inside, (Option.some.inj goesOn).symm⟩
  · cases goesOn

theorem step?_eq_none (ended : state.step? tokens = none) : tokens.length ≤ state.index := by
  rw [step?] at ended
  split at ended
  · cases ended
  · omega

/-- A turn at a word or a separator writes a path. -/
theorem turn_of_isPathPart {token : Token} (isPart : token.isPathPart = true) :
    state.turn tokens token =
      ⟨(readPathAt tokens .word state.index).2, state.out ++ (state.lead token ++
        joinSegments (shorten (readPathAt tokens .word state.index).1)), true⟩ := by
  cases token with
  | word text | separator => rfl
  | _ => cases isPart

/-- Every turn goes on, and stays within the tokens. -/
theorem lt_of_step? (goesOn : state.step? tokens = some next) :
    state.index < next.index ∧ next.index ≤ tokens.length := by
  obtain ⟨inside, rfl⟩ := step?_eq_some goesOn
  by_cases isPart : tokens[state.index].isPathPart = true
  · have path := readsPath_of_isPathPart inside isPart
    rw [turn_of_isPathPart isPart]
    exact ⟨path.advances, path.passes.within⟩
  · cases here : tokens[state.index] with
    | word text | separator =>
      rw [here] at isPart
      exact absurd rfl isPart
    | _ => exact ⟨Nat.lt_succ_self _, inside⟩

/-- Writing ends, and has then passed every token once, in order. -/
theorem exists_runs (tokens : List Token) (state : Writing) (within : state.index ≤ tokens.length) :
    ∃ visits final, Runs tokens state visits final ∧ (∀ visit ∈ visits, visit ≠ []) ∧
      visits.flatten = List.range' state.index (tokens.length - state.index) := by
  -- on the number of tokens left; a path may take away any number of them at once
  induction left : tokens.length - state.index using Nat.strong_induction_on generalizing state with
  | h count ih =>
    cases goesOn : state.step? tokens with
    | none =>
      have ended := step?_eq_none goesOn
      obtain rfl : count = 0 := by omega
      exact ⟨[], state, .done goesOn, by simp, rfl⟩
    | some next =>
      obtain ⟨later, within⟩ := lt_of_step? goesOn
      obtain ⟨visits, final, runs, nonempty, each⟩ := ih _ (by omega) next within rfl
      have meet : state.index + (next.index - state.index) = next.index := by omega
      have passed : count = (next.index - state.index) + (tokens.length - next.index) := by omega
      refine ⟨_, final, .turn goesOn runs, List.forall_mem_cons.mpr ⟨?_, nonempty⟩, ?_⟩
      · rw [Ne, List.range'_eq_nil_iff]
        omega
      · rw [List.flatten_cons, each, passed, ← List.range'_append_1, meet]

/-- What is written so far ends as the piece before the next token asks. -/
structure Follows (tokens : List Token) (state : Writing) (before : Before) : Prop where
  /-- A path or a lifetime was written last exactly if that piece is one, -/
  afterWord : state.afterWord = decide (before = .word)
  /-- and in front of a separator the text ends with `>` exactly if that piece is this mark. -/
  closing : tokens[state.index]? = some .separator →
    (state.out.getLast? = some '>' ↔ before = .closing)

namespace Follows

theorem blank_eq (follows : Follows tokens state before) :
    state.blank = if before = .word then [' '] else [] := by
  simp [blank, follows.afterWord]

/-- In front of a path stands what the piece before it asks for. -/
theorem lead_eq (follows : Follows tokens state before) (inside : state.index < tokens.length) :
    state.lead tokens[state.index] =
      pathLead before (decide (tokens[state.index] = .separator)) := by
  by_cases led : tokens[state.index] = .separator
  · have closing := follows.closing (List.getElem?_eq_some_iff.mpr ⟨inside, led⟩)
    rw [lead, led, follows.blank_eq]
    cases before <;> simp_all [pathLead]
  · rw [lead, if_neg (by simp [led]), follows.blank_eq]
    cases before <;> simp [pathLead, led]

end Follows

/-- Of all marks only `>` leaves a text that ends with `>`. -/
theorem getLast?_append_markText (text : List Char) (c : Char) :
    (text ++ markText c).getLast? = some '>' ↔ c = '>' := by
  rw [markText]
  split_ifs with comma semicolon plus
  · simp [comma]
  · simp [semicolon]
  · simp [plus]
  · simp

/-- No lifetime does. -/
theorem getLast?_append_lifetime {name : List Char} (each : ∀ c ∈ name, isWordChar c = true)
    (text : List Char) : (text ++ '\'' :: name).getLast? ≠ some '>' := by
  intro last
  rw [List.getLast?_append_of_ne_nil _ (List.cons_ne_nil _ _)] at last
  obtain same | mem := List.mem_cons.mp (List.mem_of_getLast? last)
  · exact absurd same (by decide)
  · exact absurd (each _ mem) (by decide)

/-- A turn writes the piece that starts with the next token, and leaves the text as that piece asks.
-/
theorem Follows.of_step? (follows : Follows tokens state before)
    (each : ∀ token ∈ tokens, token.IsRead) (goesOn : state.step? tokens = some next) :
    ∃ piece, pieces (tokens.drop state.index) = piece :: pieces (tokens.drop next.index) ∧
      next.out = state.out ++ piece.text before ∧ Follows tokens next piece.before := by
  obtain ⟨inside, rfl⟩ := step?_eq_some goesOn
  have isRead := each _ (List.getElem_mem inside)
  rw [List.drop_eq_getElem_cons inside]
  by_cases isPart : tokens[state.index].isPathPart = true
  · rw [pieces_of_isPathPart isPart, ← List.drop_eq_getElem_cons inside, readPath_drop,
      turn_of_isPathPart isPart]
    refine ⟨_, rfl, ?_, rfl, fun separator => ?_⟩
    · rw [Piece.text, follows.lead_eq inside]
    · -- a path of no words may leave any text behind, but it has passed all separators
      exact absurd separator (getElem?_readPathAt tokens .word state.index)
  · cases here : tokens[state.index] with
    | word text | separator =>
      rw [here] at isPart
      exact absurd rfl isPart
    | lifetime name =>
      rw [here] at isRead
      refine ⟨.lifetime name, by rw [pieces]; rfl, ?_, rfl, fun _ => ?_⟩
      · rw [Piece.text, ← follows.blank_eq]
        rfl
      · rw [turn, ← List.append_assoc]
        exact iff_of_false (getLast?_append_lifetime isRead _) (by simp [Piece.before])
    | arrow =>
      refine ⟨.arrow, by rw [pieces]; rfl, rfl, rfl, fun _ => ?_⟩
      simp [turn, Piece.before]
    | mark c =>
      refine ⟨.mark c, by rw [pieces]; rfl, rfl, ?_, fun _ => ?_⟩
      · rw [Piece.before]
        split_ifs <;> rfl
      · rw [Piece.before]
        exact (getLast?_append_markText _ c).trans (by simp)

/-- Writing to the end writes all pieces of the tokens that were left. -/
theorem Runs.out_eq (runs : Runs tokens state visits final) (each : ∀ token ∈ tokens, token.IsRead)
    (follows : Follows tokens state before) :
    final.out = state.out ++ render before (pieces (tokens.drop state.index)) := by
  induction runs generalizing before with
  | done ended => rw [List.drop_eq_nil_of_le (step?_eq_none ended), pieces, render, List.append_nil]
  | turn goesOn runs ih =>
    obtain ⟨piece, split, out, follows⟩ := follows.of_step? each goesOn
    rw [ih follows, out, split, render_cons, List.append_assoc]

end Writing

/-- The normal form of a text is written in turns that come to an end, each token of the text is
passed by one of them, and every turn passes some. -/
def IsWrittenOnce (raw : String) : Prop :=
  ∃ visits final, Writing.Runs (tokenize raw.toList) .fresh visits final ∧
    visits.flatten = List.range (tokenize raw.toList).length ∧ (∀ visit ∈ visits, visit ≠ []) ∧
    String.ofList final.out = normalize raw

theorem isWrittenOnce (raw : String) : IsWrittenOnce raw := by
  obtain ⟨visits, final, runs, nonempty, each⟩ :=
    Writing.exists_runs (tokenize raw.toList) .fresh (Nat.zero_le _)
  have starts : Writing.Follows (tokenize raw.toList) .fresh .other :=
    ⟨rfl, fun _ => by simp [Writing.fresh]⟩
  have out : final.out = render .other (pieces (tokenize raw.toList)) :=
    runs.out_eq (isRead_tokenize raw.toList) starts
  refine ⟨visits, final, runs, each.trans List.range_eq_range'.symm, nonempty, ?_⟩
  rw [out, normalize, normalizeChars]

/-- Normalizing loses nothing and always goes on. The tokens of every text hold all of it but its
white space, by slices that can be taken. A path that starts at any index of any tokens passes some
of them and answers the words among those. So the normal form of every text comes to an end and has
passed each of its tokens once. -/
theorem normalize_losesNothing :
    (∀ raw : String, KeepsText raw) ∧
      (∀ (tokens : List Token) (start : Nat) (token : Token), tokens[start]? = some token →
        token.isPathPart = true → ReadsPath tokens start) ∧
      ∀ raw : String, IsWrittenOnce raw := by
  refine ⟨keepsText, fun tokens start token here isPart => ?_, isWrittenOnce⟩
  obtain ⟨inside, rfl⟩ := List.getElem?_eq_some_iff.mp here
  exact readsPath_of_isPathPart inside isPart

/-- No type, with stray separators, quotes and dashes next to words of two-byte letters. -/
def malformedType : String := "-.é:: ::.ä'ö- >->'."

/-- From its first separator on a path is read up to the quote. -/
theorem normalize_losesNothing_malformed :
    (tokenize malformedType.toList)[1]? = some .separator ∧
      Token.separator.isPathPart = true ∧ ReadsPath (tokenize malformedType.toList) 1 ∧
      readPathAt (tokenize malformedType.toList) .word 1 = ([['é'], ['ä']], 7) := by
  have here : (tokenize malformedType.toList)[1]? = some .separator := by decide +kernel
  exact ⟨here, rfl, normalize_losesNothing.2.1 _ _ _ here rfl, by decide +kernel⟩

end ServiceDispatch.TypeName
