import ServiceDispatch.Text.Character

/-!
# Quoted texts

Two written forms of a text between double quotes: the displayed form, which keeps every visible
character, and the literal form of source text, which differs in how it writes a null character.
-/

namespace ServiceDispatch.Text

/-- A character by its code point in hexadecimal, such as `\u{200b}`. -/
def escapeCode (c : Char) : List Char :=
  "\\u\x7b".toList ++ Nat.toDigits 16 c.toNat ++ ['\x7d']

/-- One character inside double quotes. Characters without a visible form of their own are written
by code point, the quote and the backslash with a backslash. -/
def escapeChar (c : Char) : List Char :=
  if c = '\x00' then ['\\', '0']
  else if c = '\t' then ['\\', 't']
  else if c = '\r' then ['\\', 'r']
  else if c = '\n' then ['\\', 'n']
  else if c = '\\' || c = '"' then ['\\', c]
  else if extendsGrapheme c then escapeCode c
  else if isPrintable c then [c]
  else escapeCode c

/-- The displayed form of a text: its characters escaped, between double quotes. -/
def quote (s : String) : String :=
  String.ofList ('"' :: s.toList.flatMap escapeChar ++ ['"'])

/-- Escapes for a source literal. A null character before an octal digit is written with two digits,
so that the digit is not read as part of the escape. -/
def escapeLiteral : List Char → List Char
  | [] => []
  | c :: rest =>
    let image :=
      if c = '\x00' then
        (match rest with
          | d :: _ => if '0' ≤ d && d ≤ '7' then ['\\', 'x', '0', '0'] else ['\\', '0']
          | [] => ['\\', '0'])
      else escapeChar c
    image ++ escapeLiteral rest

/-- The source literal that denotes a text. -/
def literal (s : String) : String :=
  String.ofList ('"' :: escapeLiteral s.toList ++ ['"'])

end ServiceDispatch.Text
