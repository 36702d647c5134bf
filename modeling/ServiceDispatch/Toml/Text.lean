import ServiceDispatch.Text.Character

/-!
# Texts in TOML

A text is written in one of four forms: in double quotes, where escapes stand for characters, or in
single quotes, where every character stands for itself; either with one quote on a single line or
with three quotes over several lines.

A reader takes the characters from its place on and answers what it read with what is left.
-/

namespace ServiceDispatch.Toml

/-- A reader of a value. -/
abbrev Reader (α : Type) := List Char → Option (α × List Char)

/-- Whether a character may stand for itself inside a line. -/
def isPlain (c : Char) : Bool := c = '\t' || (' ' ≤ c && c ≠ '\x7f')

/-- Reads so many hexadecimal digits, after a value that was read before them. -/
def hexadecimal? : (digits value : Nat) → Reader Nat
  | 0, value, rest => some (value, rest)
  | digits + 1, value, c :: rest =>
    match Text.hexDigit? c with
    | some digit => hexadecimal? digits (value * 16 + digit) rest
    | none => none
  | _ + 1, _, [] => none

/-- Reads a code point of so many hexadecimal digits. -/
def codePoint? (digits : Nat) : Reader Char := fun text =>
  match hexadecimal? digits 0 text with
  | some (code, rest) => if Text.isCodePoint code then some (Char.ofNat code, rest) else none
  | none => none

/-- Reads what follows the backslash of an escape. -/
def escaped? : Reader Char
  | 'b' :: rest => some ('\x08', rest)
  | 't' :: rest => some ('\t', rest)
  | 'n' :: rest => some ('\n', rest)
  | 'f' :: rest => some ('\x0c', rest)
  | 'r' :: rest => some ('\r', rest)
  | '"' :: rest => some ('"', rest)
  | '\\' :: rest => some ('\\', rest)
  | 'u' :: rest => codePoint? 4 rest
  | 'U' :: rest => codePoint? 8 rest
  | _ => none

/-- Puts a character in front of what is read next. -/
def following? (c : Char) : Option (List Char × List Char) → Option (List Char × List Char) :=
  Option.map fun found => (c :: found.1, found.2)

/-- Reads a text in double quotes on one line, from behind its first quote. The fuel bounds the
number of characters. -/
def basic? : (fuel : Nat) → Reader (List Char)
  | 0, _ => none
  | fuel + 1, text =>
    match text with
    | '"' :: rest => some ([], rest)
    | '\\' :: rest =>
      match escaped? rest with
      | some (c, rest) => following? c (basic? fuel rest)
      | none => none
    | c :: rest => if isPlain c then following? c (basic? fuel rest) else none
    | [] => none

/-- Reads a text in single quotes on one line, from behind its first quote. -/
def literal? : Reader (List Char)
  | '\'' :: rest => some ([], rest)
  | c :: rest => if isPlain c then following? c (literal? rest) else none
  | [] => none

/-- Whether a character separates words of a line. -/
def isGap (c : Char) : Bool := c = ' ' || c = '\t'

/-- What is left after a line end. -/
def lineEnd? : List Char → Option (List Char)
  | '\n' :: rest => some rest
  | '\r' :: '\n' :: rest => some rest
  | _ => none

/-- What is left after line ends and spaces. -/
def afterBlank : List Char → List Char
  | '\n' :: rest => afterBlank rest
  | '\r' :: '\n' :: rest => afterBlank rest
  | c :: rest => if isGap c then afterBlank rest else c :: rest
  | [] => []

/-- What is left where a backslash at the end of a line joins the text to the next word. -/
def joined? (text : List Char) : Option (List Char) :=
  (lineEnd? (text.dropWhile isGap)).map afterBlank

/-- Reads a text in three quotes, from behind them. Up to two quotes in a row belong to the text,
also right before the quotes that end it. -/
def multiline? (quote : Char) : (fuel : Nat) → Reader (List Char)
  | 0, _ => none
  | fuel + 1, text =>
    match text with
    | '\n' :: rest => following? '\n' (multiline? quote fuel rest)
    | '\r' :: '\n' :: rest => following? '\n' (multiline? quote fuel rest)
    | c :: rest =>
      if c = quote then
        let run := (text.takeWhile (· = quote)).length
        if run < 3 then following? c (multiline? quote fuel rest)
        else
          let inner := min (run - 3) 2
          some (List.replicate inner quote, text.drop (inner + 3))
      else if c = '\\' && quote = '"' then
        match joined? rest with
        | some rest => multiline? quote fuel rest
        | none =>
          match escaped? rest with
          | some (c, rest) => following? c (multiline? quote fuel rest)
          | none => none
      else if isPlain c then following? c (multiline? quote fuel rest)
      else none
    | [] => none

/-- Reads a text in three quotes, from behind them; a line end right behind them is not part of
it. -/
def block? (quote : Char) (text : List Char) : Option (List Char × List Char) :=
  multiline? quote (text.length + 1) ((lineEnd? text).getD text)

/-- Reads a text on one line. -/
def line? : Reader String
  | '"' :: rest => (basic? (rest.length + 1) rest).map fun found =>
    (String.ofList found.1, found.2)
  | '\'' :: rest => (literal? rest).map fun found => (String.ofList found.1, found.2)
  | _ => none

/-- Reads a text in any form. -/
def text? : Reader String
  | '"' :: '"' :: '"' :: rest => (block? '"' rest).map fun found =>
    (String.ofList found.1, found.2)
  | '\'' :: '\'' :: '\'' :: rest => (block? '\'' rest).map fun found =>
    (String.ofList found.1, found.2)
  | rest => line? rest

/-- The longest run of a character. -/
def longestRun (wanted : Char) (current longest : Nat) : List Char → Nat
  | [] => max current longest
  | c :: rest =>
    if c = wanted then longestRun wanted (current + 1) longest rest
    else longestRun wanted 0 (max current longest) rest

/-- Four hexadecimal digits. -/
def fourDigits (n : Nat) : List Char :=
  let digits := (Nat.toDigits 16 n).map Char.toUpper
  List.replicate (4 - digits.length) '0' ++ digits

/-- A character as an escape, if it has to be one: control characters and the backslash are. -/
def escapeOf (c : Char) : Option (List Char) :=
  if c = '\x08' then some ['\\', 'b']
  else if c = '\t' then some ['\\', 't']
  else if c = '\n' then some ['\\', 'n']
  else if c = '\x0c' then some ['\\', 'f']
  else if c = '\r' then some ['\\', 'r']
  else if c = '\\' then some ['\\', '\\']
  else if c < ' ' || c = '\x7f' then some ('\\' :: 'u' :: fourDigits c.toNat)
  else none

/-- The characters of a text in double quotes, after so many quotes in a row. Quotes are escaped
where more than the allowed number would follow each other; line ends stand for themselves in the
form over several lines. -/
def escapedText (several : Bool) (allowed run : Nat) : List Char → List Char
  | [] => []
  | c :: rest =>
    if c = '"' then
      if run < allowed then c :: escapedText several allowed (run + 1) rest
      else '\\' :: c :: escapedText several allowed 0 rest
    else if c = '\n' && several then c :: escapedText several allowed 0 rest
    else
      match escapeOf c with
      | some written => written ++ escapedText several allowed 0 rest
      | none => c :: escapedText several allowed 0 rest

/-- The four forms of a text. -/
inductive TextForm where
  /-- Double quotes, one line. -/
  | basic
  /-- Single quotes, one line. -/
  | literal
  /-- Three double quotes. -/
  | basicBlock
  /-- Three single quotes. -/
  | literalBlock
  deriving DecidableEq, Repr

/-- Whether a character can be written as an escape only: control characters, tab and line end
excepted. -/
def needsEscape (c : Char) : Bool :=
  c ≠ '\t' && c ≠ '\n' && (c < ' ' || c = '\x7f')

/-- The form in which a text is written: the first in which nothing has to be escaped, one line
before several and double quotes before single ones; failing that, double quotes. -/
def TextForm.of (text : List Char) : TextForm :=
  let control := text.any needsEscape
  let backslash := text.contains '\\'
  let lines := text.contains '\n'
  let double := longestRun '"' 0 0 text
  let single := longestRun '\'' 0 0 text
  if !control && !backslash && double = 0 && !lines then basic
  else if !control && single = 0 && !lines then literal
  else if !control && !backslash && double ≤ 2 then basicBlock
  else if !control && single ≤ 2 then literalBlock
  else if lines then basicBlock
  else basic

/-- The line end behind three quotes, which a text of several lines starts with. -/
def blockStart (text : List Char) : List Char := if text.contains '\n' then ['\n'] else []

/-- The written form of a text. -/
def writeText (s : String) : String :=
  let text := s.toList
  String.ofList (match TextForm.of text with
    | .basic => '"' :: escapedText false 0 0 text ++ ['"']
    | .literal => '\'' :: text ++ ['\'']
    | .basicBlock =>
      ['"', '"', '"'] ++ blockStart text ++ escapedText true 2 0 text ++ ['"', '"', '"']
    | .literalBlock =>
      ['\'', '\'', '\''] ++ blockStart text ++ text ++ ['\'', '\'', '\''])

end ServiceDispatch.Toml
