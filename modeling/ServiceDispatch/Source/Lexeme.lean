/-!
# Tokens of source text

Source text is a sequence of tokens whose brackets match. Each token keeps its place, so that a
report can point at the part it is about.
-/

namespace ServiceDispatch.Source

/-- A place in a text: lines count from one, columns from zero in characters. -/
structure Position where
  /-- Line number. -/
  line : Nat
  /-- Characters of the line before this place. -/
  column : Nat
  deriving DecidableEq, Repr

/-- A stretch of a text; its end is the place after the last character. -/
structure Span where
  /-- Place of the first character. -/
  start : Position
  /-- Place after the last character. -/
  stop : Position
  deriving DecidableEq, Repr

namespace Span

/-- The place of tokens that no source text holds. -/
def nowhere : Span := ⟨⟨0, 0⟩, ⟨0, 0⟩⟩

/-- From the start of one stretch to the end of another. -/
def join (first last : Span) : Span := ⟨first.start, last.stop⟩

end Span

/-- Kind of bracket. -/
inductive Delimiter where
  /-- Round brackets. -/
  | parenthesis
  /-- Square brackets. -/
  | bracket
  /-- Curly brackets. -/
  | brace
  deriving DecidableEq, Repr

/-- The opening bracket of a kind. -/
def Delimiter.openText : Delimiter → String
  | parenthesis => "("
  | bracket => "["
  | brace => "\x7b"

/-- The closing bracket of a kind. -/
def Delimiter.closeText : Delimiter → String
  | parenthesis => ")"
  | bracket => "]"
  | brace => "\x7d"

/-- One token of source text. -/
inductive Token where
  /-- A keyword or an identifier, with the mark of a raw identifier. -/
  | word (text : String)
  /-- A lifetime by its name, without the quote. -/
  | lifetime (name : String)
  /-- A literal as written. -/
  | literal (text : String)
  /-- One punctuation character; a joint one is read together with the next. -/
  | mark (c : Char) (joint : Bool)
  /-- An opening bracket. -/
  | opening (delimiter : Delimiter)
  /-- A closing bracket. -/
  | closing (delimiter : Delimiter)
  deriving DecidableEq, Repr

namespace Token

/-- The written form of a token. -/
def text : Token → String
  | word text => text
  | lifetime name => "'" ++ name
  | literal text => text
  | mark c _ => String.singleton c
  | opening delimiter => delimiter.openText
  | closing delimiter => delimiter.closeText

/-- Whether the next token follows without a blank. -/
def isJoint : Token → Bool
  | mark _ joint => joint
  | _ => false

/-- Tokens with a blank between any two. -/
def listing (tokens : List Token) : String := String.intercalate " " (tokens.map text)

/-- Tokens with a blank between any two, except after a joint one. -/
def spaced : List Token → String
  | [] => ""
  | [token] => token.text
  | token :: rest => token.text ++ (if token.isJoint then "" else " ") ++ spaced rest

end Token

/-- A token at its place. -/
structure Lexeme where
  /-- The token. -/
  token : Token
  /-- Where it stands. -/
  span : Span
  deriving DecidableEq, Repr

namespace Lexeme

/-- The tokens of a sequence, without their places. -/
def tokens (lexemes : List Lexeme) : List Token := lexemes.map Lexeme.token

/-- The stretch from the first to the last of a sequence. -/
def spanOf (lexemes : List Lexeme) : Span :=
  match lexemes.head?, lexemes.getLast? with
  | some first, some last => first.span.join last.span
  | _, _ => .nowhere

/-- A sequence between brackets that stand at the given stretch. -/
def enclosed (delimiter : Delimiter) (span : Span) (inner : List Lexeme) : List Lexeme :=
  ⟨.opening delimiter, span⟩ :: inner ++ [⟨.closing delimiter, span⟩]

/-- The last character of a text stands alone, the others are joint. -/
def ofChars (span : Span) : List Char → List Lexeme
  | [] => []
  | [c] => [⟨.mark c false, span⟩]
  | c :: rest => ⟨.mark c true, span⟩ :: ofChars span rest

/-- Punctuation of one or more characters. -/
def ofMark (text : String) (span : Span) : List Lexeme := ofChars span text.toList

end Lexeme

/-- Source text as a tree: single tokens and bracketed groups. -/
inductive Tree where
  /-- A single token other than a bracket. -/
  | leaf (lexeme : Lexeme)
  /-- A bracketed group and the stretch from bracket to bracket. -/
  | group (delimiter : Delimiter) (inner : List Tree) (span : Span)

namespace Tree

/-- The stretch of a tree. -/
def span : Tree → Span
  | leaf lexeme => lexeme.span
  | group _ _ span => span

mutual

/-- The tokens of a tree in order, brackets included. -/
def lexemes : Tree → List Lexeme
  | leaf lexeme => [lexeme]
  | group delimiter inner span => Lexeme.enclosed delimiter span (lexemesOf inner)

/-- The tokens of several trees in order. -/
def lexemesOf : List Tree → List Lexeme
  | [] => []
  | tree :: rest => tree.lexemes ++ lexemesOf rest

end

mutual

/-- Number of tokens and groups in a tree. -/
def size : Tree → Nat
  | leaf _ => 1
  | group _ inner _ => sizeOfAll inner + 1

/-- Number of tokens and groups in several trees. -/
def sizeOfAll : List Tree → Nat
  | [] => 0
  | tree :: rest => tree.size + sizeOfAll rest

end

end Tree

end ServiceDispatch.Source
