import Mathlib.Data.List.Basic
import ServiceDispatch.Proofs.TypeName.Composition

/-!
# Global paths

A path that starts at the root of all crates is written with a separator before its first word. The
normal form drops that separator wherever no word and no `>` stands before the path. After a word
the separator is read as one inside a path, which takes in the word even if it is a keyword of the
type.
-/

namespace ServiceDispatch.TypeName

/-- A text after which a path starts anew: its last token neither is part of a path nor closes a
qualified type. -/
def EndsOutsidePath (context : List Char) : Prop :=
  ∀ token, (tokenize context).getLast? = some token →
    token.isPathPart = false ∧ token ≠ .mark '>'

instance (context : List Char) : Decidable (EndsOutsidePath context) :=
  match last : (tokenize context).getLast? with
  | none => isTrue fun _ here => by rw [last] at here; cases here
  | some token =>
    decidable_of_iff (token.isPathPart = false ∧ token ≠ .mark '>')
      ⟨fun outside token' here => by
        rw [last] at here
        exact Option.some.inj here ▸ outside, fun ends => ends token last⟩

/-- The piece of a token that is no part of a path. -/
theorem pieces_singleton {token : Token} (other : token.isPathPart = false) :
    ∃ piece, pieces [token] = [piece] ∧ (token ≠ .mark '>' → piece.before ≠ .closing) := by
  cases token with
  | word text => cases other
  | separator => cases other
  | lifetime name => exact ⟨.lifetime name, by simp [pieces], fun _ => by simp [Piece.before]⟩
  | arrow => exact ⟨.arrow, by simp [pieces], fun _ => by simp [Piece.before]⟩
  | mark c =>
    refine ⟨.mark c, by simp [pieces], fun apart => ?_⟩
    have differs : c ≠ '>' := fun same => apart (congrArg Token.mark same)
    simp [Piece.before, differs]

/-- No qualified type is closed at the end of such a text. -/
theorem EndsOutsidePath.beforeNext_ne {context : List Char} (ends : EndsOutsidePath context) :
    beforeNext .other (pieces (tokenize context)) ≠ .closing := by
  obtain nothing | ⟨init, token, split⟩ := (tokenize context).eq_nil_or_concat'
  · rw [nothing]
    simp [pieces, beforeNext]
  · have last : (tokenize context).getLast? = some token := by rw [split, List.getLast?_concat]
    obtain ⟨other, noClosing⟩ := ends token last
    obtain ⟨piece, single, before⟩ := pieces_singleton other
    have cuts : Cuts init [token] := by
      intro left right _ head _
      obtain rfl : token = right := Option.some.inj head
      exact other
    rw [split, pieces_append cuts, single, beforeNext,
      List.getLast?_concat]
    exact before noClosing

/-- Nothing of such a text goes on into what follows. -/
theorem EndsOutsidePath.cuts {context : List Char} (ends : EndsOutsidePath context)
    (more : List Token) : Cuts (tokenize context) more := by
  intro left right last _ isPart
  rw [(ends left last).1] at isPart
  cases isPart

/-- Where no qualified type is closed, a separator before a path is not written. -/
theorem render_leading_separator {before : Before} {word : List Char} {rest : List Token}
    (open_ : before ≠ .closing) :
    render before (pieces (.separator :: .word word :: rest)) =
      render before (pieces (.word word :: rest)) := by
  have led : pieces (.separator :: .word word :: rest) =
      .path true (word :: (readPath .separator rest).1) :: pieces (readPath .separator rest).2 := by
    rw [pieces]
    rfl
  have plain : pieces (.word word :: rest) =
      .path false (word :: (readPath .separator rest).1) ::
        pieces (readPath .separator rest).2 := by
    rw [pieces]
  rw [led, plain, render, render]
  cases before with
  | closing => exact absurd rfl open_
  | word | other => rfl

/-- A leading separator makes no difference to a path in any context that does not end with a word,
a separator or a closed qualified type. -/
theorem normalize_global_path {context path : String} {word : List Char}
    (ends : EndsOutsidePath context.toList)
    (starts : (tokenize path.toList).head? = some (.word word))
    (parts : Parts context.toList path.toList) (colon : context.toList.getLast? ≠ some ':') :
    normalize (context ++ "::" ++ path) = normalize (context ++ path) := by
  obtain ⟨rest, tokens⟩ := List.head?_eq_some_iff.mp starts
  have seam : Parts context.toList (':' :: ':' :: path.toList) := by
    rintro left right last head
    obtain rfl : ':' = right := Option.some.inj head
    have noColon : left ≠ ':' := by
      rintro rfl
      exact colon last
    simp [sticks, noColon, show isWordChar ':' = false from by decide]
  have global : tokenize (context.toList ++ ':' :: ':' :: path.toList) =
      tokenize context.toList ++ .separator :: .word word :: rest := by
    rw [tokenize_append seam, tokenize, tokens]
  have plain : tokenize (context.toList ++ path.toList) =
      tokenize context.toList ++ .word word :: rest := by
    rw [tokenize_append parts, tokens]
  have written : (context ++ "::" ++ path).toList =
      context.toList ++ ':' :: ':' :: path.toList := by
    simp
  rw [normalize, normalize, written, String.toList_append]
  rw [normalizeChars, normalizeChars, global, plain, pieces_append (ends.cuts _),
    pieces_append (ends.cuts _), render_append, render_append,
    render_leading_separator ends.beforeNext_ne]

/-- The start of a type with global paths in it, up to the result of a function type. -/
def functionStart : String := "&'a Result<[u8; 4], fn(::x::T) -> "

/-- The rest of that type, from a path on. -/
def functionEnd : String := "std::vec::Vec<crate::A>>"

/-- The result of a function type deep inside a type may be a global path. -/
theorem normalize_global_path_result :
    EndsOutsidePath functionStart.toList ∧
      normalize (functionStart ++ "::" ++ functionEnd) =
        normalize (functionStart ++ functionEnd) := by
  have ends : EndsOutsidePath functionStart.toList := by decide +kernel
  have starts : (tokenize functionEnd.toList).head? = some (.word "std".toList) := by
    decide +kernel
  exact ⟨ends, normalize_global_path ends starts (by decide +kernel) (by decide +kernel)⟩

/-- After a keyword the separator joins the keyword to the path. -/
theorem normalize_global_path_after_keyword :
    normalize "Box<dyn ::core::fmt::Debug>" = "Box<dyn.core.fmt.Debug>" ∧
      normalize "Box<dyn core::fmt::Debug>" = "Box<dyn core.fmt.Debug>" := by
  decide +kernel

end ServiceDispatch.TypeName
