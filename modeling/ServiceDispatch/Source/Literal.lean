import ServiceDispatch.Text.Character

/-!
# Literals of source text

Where a literal ends, for every kind of literal, and which text a string literal denotes. A scan
takes the characters from the start of a literal and answers what is left after it.
-/

namespace ServiceDispatch.Source

/-- Answers what is left after a prefix, or refuses. -/
abbrev Scan := List Char → Option (List Char)

/-- What is left after a given beginning. -/
def after? : (beginning : List Char) → Scan
  | [], rest => some rest
  | c :: more, d :: rest => if c = d then after? more rest else none
  | _ :: _, [] => none

/-- Kind of a string or character literal. -/
inductive LiteralKind where
  /-- Text of any characters. -/
  | text
  /-- Bytes, written in ASCII. -/
  | bytes
  /-- Text that ends with a null character and so holds none. -/
  | terminated
  deriving DecidableEq, Repr

/-- Whether a character may stand for itself in a literal. -/
def LiteralKind.admits : LiteralKind → Char → Bool
  | text, _ => true
  | bytes, c => !Text.beyondAscii c
  | terminated, c => c ≠ '\x00'

/-- Reads the digits of a code point and the brace after them; at most six digits are allowed and
underscores may stand after the first. The answer is the code point and what is left. -/
def codePoint? : (value digits : Nat) → List Char → Option (Nat × List Char)
  | value, digits, '\x7d' :: rest =>
    if 0 < digits && Text.isCodePoint value then some (value, rest) else none
  | value, digits, '_' :: rest => if 0 < digits then codePoint? value digits rest else none
  | value, digits, c :: rest =>
    match Text.hexDigit? c with
    | some d => if digits < 6 then codePoint? (value * 16 + d) (digits + 1) rest else none
    | none => none
  | _, _, [] => none

/-- Reads what follows a backslash, line ends excepted: the code it stands for and what is left. -/
def escape? (kind : LiteralKind) : List Char → Option (Nat × List Char)
  | 'n' :: rest => some (10, rest)
  | 'r' :: rest => some (13, rest)
  | 't' :: rest => some (9, rest)
  | '\\' :: rest => some (92, rest)
  | '\'' :: rest => some (39, rest)
  | '"' :: rest => some (34, rest)
  | '0' :: rest => if kind = .terminated then none else some (0, rest)
  | 'x' :: first :: second :: rest =>
    match Text.hexDigit? first, Text.hexDigit? second with
    | some high, some low =>
      let code := high * 16 + low
      match kind with
      | .text => if high < 8 then some (code, rest) else none
      | .bytes => some (code, rest)
      | .terminated => if code = 0 then none else some (code, rest)
    | _, _ => none
  | 'u' :: '\x7b' :: rest =>
    match kind with
    | .bytes => none
    | .text => codePoint? 0 0 rest
    | .terminated => (codePoint? 0 0 rest).filter fun found => found.1 ≠ 0
  | _ => none

/-- Drops the white space that continues a string on the next line. In text every blank character
counts, otherwise only a space, a tab and a line end. -/
def continuation (kind : LiteralKind) : Scan
  | '\r' :: '\n' :: rest => continuation kind rest
  | c :: rest =>
    if c = '\r' then none
    else if c = ' ' || c = '\t' || c = '\n' || (kind = .text && Text.isBlank c) then
      continuation kind rest
    else some (c :: rest)
  | [] => none

/-- Reads the characters of a string up to the closing quote: the codes it denotes and what is left.
The fuel bounds the number of characters. -/
def cooked? (kind : LiteralKind) : (fuel : Nat) → List Char → Option (List Nat × List Char)
  | 0, _ => none
  | fuel + 1, text =>
    match text with
    | [] => none
    | '"' :: rest => some ([], rest)
    | '\r' :: '\n' :: rest => (cooked? kind fuel rest).map fun found => (10 :: found.1, found.2)
    | '\\' :: '\n' :: rest => (continuation kind rest).bind (cooked? kind fuel)
    | '\\' :: '\r' :: '\n' :: rest => (continuation kind rest).bind (cooked? kind fuel)
    | '\\' :: rest =>
      match escape? kind rest with
      | some (code, rest) =>
        (cooked? kind fuel rest).map fun found => (code :: found.1, found.2)
      | none => none
    | c :: rest =>
      if c = '\r' || !kind.admits c then none
      else (cooked? kind fuel rest).map fun found => (c.toNat :: found.1, found.2)

/-- Reads the characters of a raw string up to the quote with the right number of hashes. A line
end keeps its carriage return. -/
def raw? (kind : LiteralKind) (hashes : Nat) : List Char → Option (List Char × List Char)
  | [] => none
  | '"' :: rest =>
    match after? (List.replicate hashes '#') rest with
    | some left => some ([], left)
    | none => (raw? kind hashes rest).map fun found => ('"' :: found.1, found.2)
  | '\r' :: '\n' :: rest =>
    (raw? kind hashes rest).map fun found => ('\r' :: '\n' :: found.1, found.2)
  | c :: rest =>
    if c = '\r' || !kind.admits c then none
    else (raw? kind hashes rest).map fun found => (c :: found.1, found.2)

/-- Reads a raw string from its hashes on. -/
def rawFromHashes? (kind : LiteralKind) (text : List Char) : Option (List Char × List Char) :=
  let hashes := (text.takeWhile (· = '#')).length
  match text.dropWhile (· = '#') with
  | '"' :: rest => if hashes ≤ 255 then raw? kind hashes rest else none
  | _ => none

/-- Reads an identifier that is not marked raw. -/
def identifier? : List Char → Option (List Char × List Char)
  | c :: rest =>
    if Text.isIdentifierStart c then
      some (c :: rest.takeWhile Text.isIdentifierContinue,
        rest.dropWhile Text.isIdentifierContinue)
    else none
  | [] => none

/-- Words that cannot be marked raw. -/
def neverRaw : List String := ["_", "super", "self", "Self", "crate"]

/-- Reads an identifier, raw or not. -/
def rawOrPlainIdentifier? : List Char → Option (List Char × List Char)
  | 'r' :: '#' :: rest =>
    match identifier? rest with
    | some (name, left) =>
      if String.ofList name ∈ neverRaw then none else some ('r' :: '#' :: name, left)
    | none => none
  | text => identifier? text

/-- Drops the suffix of a literal. -/
def afterSuffix (text : List Char) : List Char :=
  match identifier? text with
  | some (_, rest) => rest
  | none => text

/-- Past a string from its opening quote. -/
def cookedEnd (kind : LiteralKind) (text : List Char) : Option (List Char) :=
  (cooked? kind (text.length + 1) text).map fun found => afterSuffix found.2

/-- Past a raw string from its hashes. -/
def rawEnd (kind : LiteralKind) (text : List Char) : Option (List Char) :=
  (rawFromHashes? kind text).map fun found => afterSuffix found.2

/-- Past a character or byte literal from its opening quote. -/
def characterEnd (kind : LiteralKind) : Scan
  | '\\' :: rest =>
    match escape? kind rest with
    | some (_, '\'' :: rest) => some (afterSuffix rest)
    | _ => none
  | c :: '\'' :: rest => if kind.admits c then some (afterSuffix rest) else none
  | _ => none

/-- Past the digits, the point and the exponent mark of a number: what is left, whether a point was
met, whether the exponent mark was, and what was left before that mark. Refuses a point that starts
a range or a member. -/
def mantissa? : (point : Bool) → List Char → Option (List Char × Bool × Option (List Char))
  | point, c :: rest =>
    if c.isDigit || c = '_' then mantissa? point rest
    else if c = '.' then
      if point then some (c :: rest, point, none)
      else
        match rest with
        | next :: _ =>
          if next = '.' || Text.isIdentifierStart next then none else mantissa? true rest
        | [] => mantissa? true rest
    else if c = 'e' || c = 'E' then some (rest, point, some (c :: rest))
    else some (c :: rest, point, none)
  | point, [] => some ([], point, none)

/-- Past the sign and digits of an exponent; refuses an exponent without digits and a second sign
before the first digit. -/
def exponentEnd : (signed valued : Bool) → Scan
  | signed, valued, c :: rest =>
    if c = '+' || c = '-' then
      if valued then some (c :: rest)
      else if signed then none
      else exponentEnd true valued rest
    else if c.isDigit then exponentEnd signed true rest
    else if c = '_' then exponentEnd signed valued rest
    else if valued then some (c :: rest) else none
  | _, valued, [] => if valued then some [] else none

/-- Past the digits of a number with a point or an exponent. -/
def floatDigitsEnd : Scan
  | c :: rest =>
    if c.isDigit then
      match mantissa? false rest with
      | some (left, point, none) => if point then some left else none
      | some (left, point, some beforeMark) =>
        match exponentEnd false false left with
        | some left => some left
        | none => if point then some beforeMark else none
      | none => none
    else none
  | [] => none

/-- Past a suffix; refuses to stop inside a word. -/
def numberSuffixEnd (text : List Char) : Option (List Char) :=
  match afterSuffix text with
  | c :: rest => if Text.isIdentifierContinue c then none else some (c :: rest)
  | [] => some []

/-- Past the digits of an integer of a base. -/
def digitsEnd (base : Nat) : (empty : Bool) → Scan
  | empty, c :: rest =>
    if c.isDigit then
      if c.toNat - 48 < base then digitsEnd base false rest else none
    else if c = '_' then
      if empty && base = 10 then none else digitsEnd base empty rest
    else if (Text.hexDigit? c).isSome && base = 16 then digitsEnd base false rest
    else if empty then none else some (c :: rest)
  | empty, [] => if empty then none else some []

/-- Past the digits of an integer with its base mark. -/
def integerDigitsEnd : Scan
  | '0' :: 'x' :: rest => digitsEnd 16 true rest
  | '0' :: 'o' :: rest => digitsEnd 8 true rest
  | '0' :: 'b' :: rest => digitsEnd 2 true rest
  | text => digitsEnd 10 true text

/-- Past a number with its suffix. -/
def numberEnd (text : List Char) : Option (List Char) :=
  ((floatDigitsEnd text).bind numberSuffixEnd).or
    ((integerDigitsEnd text).bind numberSuffixEnd)

/-- Past a literal of any kind, the mark of an unreadable one included. -/
def literalEnd : Scan
  | '(' :: rest => after? "/*ERROR*/)".toList rest
  | '"' :: rest => cookedEnd .text rest
  | 'r' :: rest => rawEnd .text rest
  | 'b' :: '"' :: rest => cookedEnd .bytes rest
  | 'b' :: 'r' :: rest => rawEnd .bytes rest
  | 'c' :: '"' :: rest => cookedEnd .terminated rest
  | 'c' :: 'r' :: rest => rawEnd .terminated rest
  | 'b' :: '\'' :: rest => characterEnd .bytes rest
  | '\'' :: rest => characterEnd .text rest
  | text => numberEnd text

/-- The digits of an integer and their base, without the mark of the base. -/
def integerDigits : List Char → Nat × List Char
  | '0' :: 'x' :: digits => (16, digits)
  | '0' :: 'o' :: digits => (8, digits)
  | '0' :: 'b' :: digits => (2, digits)
  | digits => (10, digits)

/-- The value of digits after those read so far; underscores are skipped. Refuses any other
character. -/
def digitsValue? (base : Nat) : (value : Nat) → List Char → Option Nat
  | value, '_' :: rest => digitsValue? base value rest
  | value, c :: rest =>
    match Text.hexDigit? c with
    | some digit => if digit < base then digitsValue? base (value * base + digit) rest else none
    | none => none
  | value, [] => some value

/-- Members without a name have a number below this one. -/
def memberBound : Nat := 4294967296

/-- The number of a member: an integer of any base without a suffix. -/
def memberIndex? (literal : String) : Option Nat :=
  match literal.toList with
  | c :: rest =>
    if c.isDigit then
      let (base, digits) := integerDigits (c :: rest)
      (digitsValue? base 0 digits).filter (· < memberBound)
    else none
  | [] => none

/-- The text that a string literal denotes. Literals of other kinds denote none. -/
def stringValue? (literal : String) : Option String :=
  match literal.toList with
  | '"' :: rest =>
    (cooked? .text (rest.length + 1) rest).map fun found =>
      String.ofList (found.1.map Char.ofNat)
  | 'r' :: rest => (rawFromHashes? .text rest).map fun found => String.ofList found.1
  | _ => none

end ServiceDispatch.Source
