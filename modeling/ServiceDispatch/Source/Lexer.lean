import ServiceDispatch.Source.Lexeme
import ServiceDispatch.Source.Literal
import ServiceDispatch.Text.Quoted

/-!
# Reading source text

Splits a text into tokens and matches its brackets. White space and comments are dropped, while a
documentation comment becomes the attribute that it abbreviates.
-/

namespace ServiceDispatch.Source

/-- The place after some characters. -/
def Position.after (position : Position) (text : List Char) : Position :=
  text.foldl
    (fun at_ c => if c = '\n' then ⟨at_.line + 1, 0⟩ else ⟨at_.line, at_.column + 1⟩) position

/-- White space between tokens; the two direction marks count. -/
def isSeparator (c : Char) : Bool := Text.isBlank c || c = '\u200e' || c = '\u200f'

/-- Past the end of a block comment that is open to some depth; comments nest. -/
def commentEnd : (depth : Nat) → Scan
  | depth, '/' :: '*' :: rest => commentEnd (depth + 1) rest
  | depth, '*' :: '/' :: rest => if depth ≤ 1 then some rest else commentEnd (depth - 1) rest
  | depth, _ :: rest => commentEnd depth rest
  | _, [] => none

/-- Past one comment that is not documentation. -/
def plainCommentEnd : Scan
  | '/' :: '/' :: '/' :: '/' :: rest => some (rest.dropWhile (· ≠ '\n'))
  | '/' :: '/' :: '/' :: _ => none
  | '/' :: '/' :: '!' :: _ => none
  | '/' :: '/' :: rest => some (rest.dropWhile (· ≠ '\n'))
  | '/' :: '*' :: '*' :: '/' :: rest => some rest
  | '/' :: '*' :: '*' :: '*' :: rest => commentEnd 1 ('*' :: '*' :: rest)
  | '/' :: '*' :: '*' :: _ => none
  | '/' :: '*' :: '!' :: _ => none
  | '/' :: '*' :: rest => commentEnd 1 rest
  | _ => none

/-- Drops white space and comments; the fuel bounds their number. -/
def skipBlank : (fuel : Nat) → List Char → List Char
  | 0, text => text
  | fuel + 1, text =>
    match text.dropWhile isSeparator with
    | [] => []
    | rest =>
      match plainCommentEnd rest with
      | some left => skipBlank fuel left
      | none => rest

/-- A documentation comment. -/
structure DocComment where
  /-- Whether it documents what encloses it. -/
  isInner : Bool
  /-- Its text, marks excepted. -/
  text : List Char
  /-- What is left after it. -/
  rest : List Char

/-- A line of text without the carriage return that belongs to its end. -/
def lineText (text : List Char) : List Char :=
  let line := text.takeWhile (· ≠ '\n')
  if line.length < text.length && line.getLast? = some '\r' then line.dropLast else line

/-- A block comment between its marks, from the text after the opening one. -/
def blockText? (isInner : Bool) (text : List Char) : Option DocComment :=
  (commentEnd 1 text).map fun rest =>
    ⟨isInner, (text.take (text.length - rest.length - 2)).drop 1, rest⟩

/-- Whether each carriage return is part of a line end. -/
def hasPairedReturns : List Char → Bool
  | '\r' :: '\n' :: rest => hasPairedReturns rest
  | c :: rest => c ≠ '\r' && hasPairedReturns rest
  | [] => true

/-- Reads a documentation comment. -/
def docComment? (text : List Char) : Option DocComment :=
  let found : Option DocComment :=
    match text with
    | '/' :: '/' :: '!' :: rest => some ⟨true, lineText rest, rest.dropWhile (· ≠ '\n')⟩
    | '/' :: '*' :: '!' :: rest => blockText? true ('!' :: rest)
    | '/' :: '/' :: '/' :: rest =>
      if rest.head? = some '/' then none
      else some ⟨false, lineText rest, rest.dropWhile (· ≠ '\n')⟩
    | '/' :: '*' :: '*' :: rest =>
      if rest.head? = some '*' then none else blockText? false ('*' :: rest)
    | _ => none
  found.filter fun comment => hasPairedReturns comment.text

/-- The attribute that a documentation comment abbreviates; all of it stands where the comment does.
-/
def DocComment.trees (comment : DocComment) (span : Span) : List Tree :=
  let mark (c : Char) : Tree := .leaf ⟨.mark c false, span⟩
  let bang := if comment.isInner then [mark '!'] else []
  let literal := Token.literal (Text.literal (String.ofList comment.text))
  mark '#' :: bang ++
    [.group .bracket
      [.leaf ⟨.word "doc", span⟩, mark '=', .leaf ⟨literal, span⟩] span]

/-- Characters of punctuation. -/
def punctuation : List Char := "~!@#$%^&*-=+|;:,<.>/?'".toList

/-- Whether a text starts with punctuation and not with a comment. -/
def startsWithMark : List Char → Bool
  | '/' :: '/' :: _ => false
  | '/' :: '*' :: _ => false
  | c :: _ => punctuation.contains c
  | [] => false

/-- Beginnings of string literals, with which no identifier starts. -/
def stringBeginnings : List (List Char) :=
  ["r\"", "r#\"", "r##", "b\"", "b'", "br\"", "br#", "c\"", "cr\"", "cr#"].map String.toList

/-- Whether a text starts like a string literal. -/
def startsLikeString (text : List Char) : Bool :=
  stringBeginnings.any fun beginning => (after? beginning text).isSome

/-- Reads a lifetime from the text after its quote. A quote before a string literal stands alone. -/
def lifetimeToken? (text : List Char) : Option (Token × List Char) :=
  match rawOrPlainIdentifier? text with
  | some (name, left) =>
    if left.head? = some '\'' then none
    else if left.head? = some '#' && (after? ['r', '#'] text).isNone then none
    else if startsLikeString text then some (.mark '\'' true, text)
    else some (.lifetime (String.ofList name), left)
  | none => none

/-- Reads one token other than a bracket. -/
def leaf? (text : List Char) : Option (Token × List Char) :=
  match literalEnd text with
  | some rest => some (.literal (String.ofList (text.take (text.length - rest.length))), rest)
  | none =>
    match text with
    | '\'' :: rest => lifetimeToken? rest
    | c :: rest =>
      if startsWithMark text then some (.mark c (startsWithMark rest), rest)
      else if startsLikeString text then none
      else
        (rawOrPlainIdentifier? text).map fun found => (.word (String.ofList found.1), found.2)
    | [] => none

/-- The bracket that a character opens. -/
def opens? : Char → Option Delimiter
  | '(' => some .parenthesis
  | '[' => some .bracket
  | '\x7b' => some .brace
  | _ => none

/-- The bracket that a character closes. -/
def closes? : Char → Option Delimiter
  | ')' => some .parenthesis
  | ']' => some .bracket
  | '\x7d' => some .brace
  | _ => none

/-- A group that is not closed yet. -/
structure OpenGroup where
  /-- Kind of its bracket. -/
  delimiter : Delimiter
  /-- Place of its bracket. -/
  start : Position
  /-- Trees before it, the last first. -/
  before : List Tree

/-- Reads the trees of a text. Open groups are given innermost first and trees last first; the fuel
bounds the number of tokens. -/
def readTrees : (fuel : Nat) → List Char → Position → List OpenGroup → List Tree →
    Option (List Tree)
  | 0, _, _, _, _ => none
  | fuel + 1, given, place, groups, trees =>
    let text := skipBlank given.length given
    let start := place.after (given.take (given.length - text.length))
    let upTo (rest : List Char) : Position := start.after (text.take (text.length - rest.length))
    match docComment? text with
    | some comment =>
      let stop := upTo comment.rest
      let expanded := comment.trees ⟨start, stop⟩
      readTrees fuel comment.rest stop groups (expanded.reverse ++ trees)
    | none =>
      match text with
      | [] => if groups.isEmpty then some trees.reverse else none
      | c :: rest =>
        let opened := (opens? c).filter fun _ => (literalEnd text).isNone
        match opened, closes? c with
        | some delimiter, _ =>
          readTrees fuel rest (start.after [c]) (⟨delimiter, start, trees⟩ :: groups) []
        | none, some delimiter =>
          match groups with
          | innermost :: outer =>
            if innermost.delimiter = delimiter then
              let stop := start.after [c]
              let closed := Tree.group delimiter trees.reverse ⟨innermost.start, stop⟩
              readTrees fuel rest stop outer (closed :: innermost.before)
            else none
          | [] => none
        | none, none =>
          match leaf? text with
          | some (token, rest) =>
            let stop := upTo rest
            readTrees fuel rest stop groups (.leaf ⟨token, ⟨start, stop⟩⟩ :: trees)
          | none => none

/-- The trees of a source text, or nothing when it has a malformed token or unmatched brackets. A
byte order mark at the start is skipped. -/
def readSource (source : String) : Option (List Tree) :=
  match source.toList with
  | '\ufeff' :: rest => readTrees (rest.length + 1) rest ⟨1, 1⟩ [] []
  | text => readTrees (text.length + 1) text ⟨1, 0⟩ [] []

end ServiceDispatch.Source
