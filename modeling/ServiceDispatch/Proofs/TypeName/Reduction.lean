import Mathlib.Data.List.Infix
import ServiceDispatch.Proofs.TypeName.ModulePath

/-!
# Reduced tokens

Spellings of one type differ in separators that no path needs and in paths that a short name stands
for. The reduced tokens of a type name are free of both. They are defined on the tokens alone and
are shown to be the tokens of the pieces from which the normal form is written, for type names in
which every separator stands in a row next to a word.
-/

namespace ServiceDispatch.TypeName

/-- Drops redundant separators. Of separators in a row one is kept if a word follows and they go on
from what stands before them, which is a word or the mark `>` of a qualified type. `goesOn` tells
whether such a token stands last, and `pending` whether separators follow it. -/
def dropSeparators (goesOn pending : Bool) : List Token → List Token
  | [] => []
  | .separator :: rest => dropSeparators goesOn true rest
  | .word text :: rest =>
    (if goesOn && pending then [.separator] else []) ++
      .word text :: dropSeparators true false rest
  | token :: rest => token :: dropSeparators (token = .mark '>') false rest

/-- The words ahead that each stand after one separator, and what follows them. -/
def laterWords : List Token → List (List Char) × List Token
  | .separator :: .word text :: rest => (text :: (laterWords rest).1, (laterWords rest).2)
  | tokens => ([], tokens)

theorem laterWords_length_le (tokens : List Token) :
    (laterWords tokens).2.length ≤ tokens.length := by
  fun_induction laterWords tokens with
  | case1 text rest ih => simp only [List.length_cons]; omega
  | case2 tokens => exact Nat.le_refl _

/-- Every word but the first after a separator. -/
def laterTokens (words : List (List Char)) : List Token :=
  words.flatMap fun word => [.separator, .word word]

/-- The tokens of a path. -/
def pathTokens : List (List Char) → List Token
  | [] => []
  | first :: rest => .word first :: laterTokens rest

/-- Puts the short name in place of every maximal path that has one. -/
def shortenPaths : List Token → List Token
  | [] => []
  | .word text :: rest =>
    pathTokens (shorten (text :: (laterWords rest).1)) ++ shortenPaths (laterWords rest).2
  | token :: rest => token :: shortenPaths rest
  termination_by tokens => tokens.length
  decreasing_by
    all_goals simp only [List.length_cons]
    · have := laterWords_length_le rest; omega
    · omega

/-- The tokens of a type name without redundant separators and with the short names of its paths. -/
def reduced (tokens : List Token) : List Token := shortenPaths (dropSeparators false false tokens)

/-- Separators stand in a row with no word directly before or after them. -/
def HasLooseSeparators (tokens : List Token) : Prop :=
  ∃ before row after, tokens = before ++ (row ++ after) ∧ row ≠ [] ∧
    (∀ token ∈ row, token = .separator) ∧
    (∀ token, before.getLast? = some token → token.isPathPart = false) ∧
    (∀ token, after.head? = some token → token.isPathPart = false)

/-- No two marks of a type name look like one token together, and all its separators belong to
paths. -/
structure IsRegular (tokens : List Token) : Prop where
  /-- Two colons would look like a separator. -/
  colons : ¬ [.mark ':', .mark ':'] <:+: tokens
  /-- A dash and `>` would look like an arrow. -/
  dashes : ¬ [.mark '-', .mark '>'] <:+: tokens
  /-- Separators stand next to words. -/
  separators : ¬ HasLooseSeparators tokens

/-- What is left of some tokens after a path starts with no separator. -/
theorem head?_readPath (awaited : Awaited) (tokens : List Token) :
    (readPath awaited tokens).2.head? ≠ some .separator := by
  fun_induction readPath awaited tokens with
  | case1 text rest segments left read ih =>
    rw [read] at ih
    exact ih
  | case2 awaited rest ih => exact ih
  | case3 awaited tokens noWord noSeparator =>
    intro head
    obtain ⟨rest, rfl⟩ := List.head?_eq_some_iff.mp head
    exact noSeparator rest rfl

/-- What is left of some tokens after a path is the end of them. -/
theorem readPath_suffix (awaited : Awaited) (tokens : List Token) :
    (readPath awaited tokens).2 <:+ tokens := by
  fun_induction readPath awaited tokens with
  | case1 text rest segments left read ih =>
    rw [read] at ih
    exact ih.trans (List.suffix_cons _ _)
  | case2 awaited rest ih => exact ih.trans (List.suffix_cons _ _)
  | case3 awaited tokens => exact List.suffix_refl _

/-- The words of a path are among the tokens. -/
theorem word_mem_of_readPath {awaited : Awaited} {tokens : List Token} {word : List Char}
    (found : word ∈ (readPath awaited tokens).1) : .word word ∈ tokens := by
  fun_induction readPath awaited tokens with
  | case1 text rest segments left read ih =>
    rw [read] at ih
    obtain rfl | later := List.mem_cons.mp found
    · exact List.mem_cons_self
    · exact List.mem_cons_of_mem _ (ih later)
  | case2 awaited rest ih => exact List.mem_cons_of_mem _ (ih found)
  | case3 awaited tokens => cases found

/-- Where no word of a path follows, only separators are skipped. -/
theorem readPath_eq_nil {tokens : List Token} (none : (readPath .word tokens).1 = []) :
    ∃ row, tokens = row ++ (readPath .word tokens).2 ∧ (∀ token ∈ row, token = .separator) ∧
      ∀ token, (readPath .word tokens).2.head? = some token → token.isPathPart = false := by
  induction tokens with
  | nil => exact ⟨[], rfl, by simp, fun _ absurd => nomatch absurd⟩
  | cons token rest ih =>
    cases token with
    | word text => cases none
    | separator =>
      obtain ⟨row, split, each, after⟩ := ih none
      have further : readPath .word (.separator :: rest) = readPath .word rest := rfl
      rw [further]
      exact ⟨.separator :: row, congrArg _ split, List.forall_mem_cons.mpr ⟨rfl, each⟩, after⟩
    | _ => exact ⟨[], rfl, by simp, fun _ here => by obtain rfl := Option.some.inj here; rfl⟩

theorem readPath_separators {row : List Token} (each : ∀ token ∈ row, token = .separator) :
    readPath .word row = ([], []) := by
  induction row with
  | nil => rfl
  | cons token rest ih =>
    obtain ⟨rfl, others⟩ := List.forall_mem_cons.mp each
    exact ih others

/-- Separators alone are a path without words. -/
theorem pieces_separators {row : List Token} (nonempty : row ≠ [])
    (each : ∀ token ∈ row, token = .separator) : pieces row = [.path true []] := by
  obtain ⟨first, rest, rfl⟩ := List.exists_cons_of_ne_nil nonempty
  obtain ⟨rfl, others⟩ := List.forall_mem_cons.mp each
  rw [pieces, readPath_separators others]
  simp [pieces]

/-- Loose separators that stand behind some tokens are loose in the whole, unless they go on from
those tokens. -/
theorem HasLooseSeparators.append (first : List Token) {second : List Token}
    (loose : HasLooseSeparators second)
    (apart : second.head? = some .separator →
      ∀ token, first.getLast? = some token → token.isPathPart = false) :
    HasLooseSeparators (first ++ second) := by
  obtain ⟨before, row, after, rfl, nonempty, each, start, stop⟩ := loose
  refine ⟨first ++ before, row, after, by simp, nonempty, each, fun token last => ?_, stop⟩
  cases before with
  | nil =>
    obtain ⟨head, others, rfl⟩ := List.exists_cons_of_ne_nil nonempty
    obtain rfl := each head List.mem_cons_self
    rw [List.append_nil] at last
    exact apart rfl token last
  | cons head others =>
    rw [List.getLast?_append_of_ne_nil _ (List.cons_ne_nil _ _)] at last
    exact start token last

/-- Loose separators are the paths without words. -/
theorem hasLooseSeparators_iff {tokens : List Token} :
    HasLooseSeparators tokens ↔ .path true [] ∈ pieces tokens := by
  constructor
  · rintro ⟨before, row, after, rfl, nonempty, each, start, stop⟩
    have cutsBefore : Cuts before (row ++ after) := fun left right last _ isPart => by
      rw [start left last] at isPart
      cases isPart
    have cutsAfter : Cuts row after := fun left right _ head _ => stop right head
    rw [pieces_append cutsBefore, pieces_append cutsAfter, pieces_separators nonempty each]
    simp
  · intro empty
    -- a path leaves no separator behind, so the separators of later pieces do not go on from it
    have behind : ∀ (awaited : Awaited) (part : Token) (rest : List Token),
        HasLooseSeparators (readPath awaited rest).2 → HasLooseSeparators (part :: rest) := by
      intro awaited part rest loose
      obtain ⟨read, split⟩ := readPath_suffix awaited rest
      have whole := loose.append (part :: read) fun head =>
        absurd head (head?_readPath awaited rest)
      rwa [List.cons_append, split] at whole
    have single : ∀ (token : Token) (rest : List Token), token.isPathPart = false →
        HasLooseSeparators rest → HasLooseSeparators (token :: rest) := by
      intro token rest other loose
      exact loose.append [token] fun _ last here => by
        obtain rfl := Option.some.inj here
        exact other
    fun_induction pieces tokens with
    | case1 => cases empty
    | case2 text rest read ih =>
      exact behind .separator _ rest (ih (List.mem_of_ne_of_mem (by simp) empty))
    | case3 rest read ih =>
      obtain here | later := List.mem_cons.mp empty
      · obtain ⟨row, split, each, stop⟩ := readPath_eq_nil (Piece.path.inj here).2.symm
        exact ⟨[], .separator :: row, read.2, by rw [List.nil_append, List.cons_append, ← split],
          List.cons_ne_nil _ _, List.forall_mem_cons.mpr ⟨rfl, each⟩, by simp, stop⟩
      · exact behind .word _ rest (ih later)
    | case4 name rest ih | case5 rest ih | case6 c rest ih =>
      exact single _ rest rfl (ih (List.mem_of_ne_of_mem (by simp) empty))

/-- `IsRegular`, run. -/
theorem isRegular_iff {tokens : List Token} :
    IsRegular tokens ↔ ¬ [.mark ':', .mark ':'] <:+: tokens ∧
      ¬ [.mark '-', .mark '>'] <:+: tokens ∧ .path true [] ∉ pieces tokens :=
  ⟨fun ⟨colons, dashes, separators⟩ =>
      ⟨colons, dashes, fun empty => separators (hasLooseSeparators_iff.mpr empty)⟩,
    fun ⟨colons, dashes, separators⟩ =>
      ⟨colons, dashes, fun loose => separators (hasLooseSeparators_iff.mp loose)⟩⟩

instance (tokens : List Token) : Decidable (IsRegular tokens) :=
  decidable_of_iff' _ isRegular_iff

/-- The tokens of a piece that stands after one of the given kind, in reduced form. -/
def Piece.tokens (before : Before) : Piece → List Token
  | .path led words =>
    (if led && before = .closing then [.separator] else []) ++ pathTokens (shorten words)
  | .lifetime name => [.lifetime name]
  | .arrow => [.arrow]
  | .mark c => [.mark c]

/-- The tokens of pieces that stand after one of the given kind, in reduced form. -/
def tokensOf (before : Before) : List Piece → List Token
  | [] => []
  | piece :: rest => piece.tokens before ++ tokensOf piece.before rest

/-- The words of a path that goes on keep one separator each. -/
theorem dropSeparators_readPath (awaited : Awaited) (tokens : List Token) :
    dropSeparators true (match awaited with | .word => true | .separator => false) tokens =
      laterTokens (readPath awaited tokens).1 ++
        dropSeparators true false (readPath awaited tokens).2 := by
  fun_induction readPath awaited tokens with
  | case1 text rest segments left read ih =>
    rw [read] at ih
    simpa [dropSeparators, laterTokens] using ih
  | case2 awaited rest ih => simpa [dropSeparators] using ih
  | case3 awaited tokens noWord noSeparator =>
    cases awaited with
    | separator => rfl
    | word =>
      cases tokens with
      | nil => rfl
      | cons token rest =>
        cases token with
        | word text => exact absurd rfl (noWord text rest rfl)
        | separator => exact absurd rfl (noSeparator rest)
        | _ => rfl

/-- The words after separators keep one in front of them where they go on from something. -/
theorem dropSeparators_led (goesOn : Bool) {tokens : List Token} {word : List Char}
    {words : List (List Char)} (read : (readPath .word tokens).1 = word :: words) :
    dropSeparators goesOn true tokens =
      (if goesOn then [.separator] else []) ++ .word word :: laterTokens words ++
        dropSeparators true false (readPath .word tokens).2 := by
  induction tokens with
  | nil => cases read
  | cons token rest ih =>
    cases token with
    | word text =>
      obtain ⟨rfl, rfl⟩ := List.cons.inj read
      have further := dropSeparators_readPath .separator rest
      have left : (readPath .word (.word text :: rest)).2 = (readPath .separator rest).2 := rfl
      rw [left, dropSeparators, Bool.and_true, further]
      simp
    | separator => exact ih read
    | _ => cases read

/-- The first of the tokens that are kept is a separator only if the first token was one. -/
theorem head?_dropSeparators (goesOn : Bool) {tokens : List Token}
    (other : tokens.head? ≠ some .separator) :
    (dropSeparators goesOn false tokens).head? ≠ some .separator := by
  cases tokens with
  | nil => exact other
  | cons token rest =>
    cases token with
    | word text => simp [dropSeparators]
    | separator => exact absurd rfl other
    | _ => simp [dropSeparators]

theorem laterWords_append (words : List (List Char)) {after : List Token}
    (other : after.head? ≠ some .separator) :
    laterWords (laterTokens words ++ after) = (words, after) := by
  induction words with
  | nil =>
    cases after with
    | nil => rfl
    | cons token rest =>
      cases token with
      | separator => exact absurd rfl other
      | _ => rfl
  | cons word words ih =>
    have first : laterTokens (word :: words) ++ after =
        .separator :: .word word :: (laterTokens words ++ after) := rfl
    rw [first, laterWords, ih]

/-- A path is shortened as a whole. -/
theorem shortenPaths_path (word : List Char) (words : List (List Char)) {after : List Token}
    (other : after.head? ≠ some .separator) :
    shortenPaths (.word word :: laterTokens words ++ after) =
      pathTokens (shorten (word :: words)) ++ shortenPaths after := by
  rw [List.cons_append, shortenPaths, laterWords_append words other]

/-- Where all separators belong to paths, the reduced tokens are those of the pieces. -/
theorem shortenPaths_dropSeparators {tokens : List Token} (full : .path true [] ∉ pieces tokens)
    (goesOn : Bool) (before : Before)
    (starts : tokens.head? = some .separator → goesOn = (before = .closing : Bool)) :
    shortenPaths (dropSeparators goesOn false tokens) = tokensOf before (pieces tokens) := by
  fun_induction pieces tokens generalizing goesOn before with
  | case1 => simp [dropSeparators, shortenPaths, tokensOf]
  | case2 text rest read ih =>
    have ends : read.2.head? ≠ some .separator := head?_readPath .separator rest
    have further := dropSeparators_readPath .separator rest
    rw [dropSeparators, Bool.and_false, further]
    have path := shortenPaths_path text read.1 (head?_dropSeparators true ends)
    have later := ih (fun empty => full (List.mem_cons_of_mem _ empty)) true .word
      fun head => absurd head ends
    simp only [tokensOf, Piece.tokens, Piece.before, ← later, Bool.false_and]
    simpa using path
  | case3 rest read ih =>
    have ends : read.2.head? ≠ some .separator := head?_readPath .word rest
    obtain ⟨word, words, some⟩ : ∃ word words, read.1 = word :: words := by
      refine List.exists_cons_of_ne_nil fun none => full ?_
      rw [none]
      exact List.mem_cons_self
    rw [dropSeparators, dropSeparators_led goesOn some]
    have path := shortenPaths_path word words (head?_dropSeparators true ends)
    have later := ih (fun empty => full (List.mem_cons_of_mem _ empty)) true .word
      fun head => absurd head ends
    simp only [tokensOf, Piece.tokens, Piece.before, ← later, Bool.true_and, starts rfl, some]
    split
    · rw [List.append_assoc, List.append_assoc, ← path]
      simp [shortenPaths, read]
    · rw [List.append_assoc, List.append_assoc, ← path]
      simp [read]
  | case4 name rest ih =>
    have later := ih (fun empty => full (List.mem_cons_of_mem _ empty)) false .word fun _ => rfl
    simpa [dropSeparators, shortenPaths, tokensOf, Piece.tokens, Piece.before] using later
  | case5 rest ih =>
    have later := ih (fun empty => full (List.mem_cons_of_mem _ empty)) false .other fun _ => rfl
    simpa [dropSeparators, shortenPaths, tokensOf, Piece.tokens, Piece.before] using later
  | case6 c rest ih =>
    have starts' : decide (c = '>') = decide ((Piece.mark c).before = .closing) := by
      by_cases same : c = '>' <;> simp [Piece.before, same]
    have later := ih (fun empty => full (List.mem_cons_of_mem _ empty)) (c = '>')
      (Piece.mark c).before fun _ => starts'
    simpa [dropSeparators, shortenPaths, tokensOf, Piece.tokens] using later

/-- Reduction sees a type name as the normal form does. -/
theorem IsRegular.reduced_eq {tokens : List Token} (regular : IsRegular tokens) :
    reduced tokens = tokensOf .other (pieces tokens) :=
  shortenPaths_dropSeparators (isRegular_iff.mp regular).2.2 false .other fun _ => rfl

end ServiceDispatch.TypeName
