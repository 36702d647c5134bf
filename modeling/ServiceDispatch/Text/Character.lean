import ServiceDispatch.Text.Property.Alphabetic
import ServiceDispatch.Text.Property.Blank
import ServiceDispatch.Text.Property.GraphemeExtend
import ServiceDispatch.Text.Property.IdentifierContinue
import ServiceDispatch.Text.Property.IdentifierStart
import ServiceDispatch.Text.Property.Numeric
import ServiceDispatch.Text.Property.Unprintable

/-!
# Classes of characters

The Unicode classes that type names, source text and quoted strings are read with. Inside ASCII
each class is decided by the few rules of core; beyond it the property tables decide.
-/

namespace ServiceDispatch.Text

/-- Whether a character lies outside ASCII. -/
def beyondAscii (c : Char) : Bool := 0x80 ≤ c.toNat

/-- A letter or a number of any script. -/
def isAlphanumeric (c : Char) : Bool :=
  c.isAlphanum ||
    (beyondAscii c && (alphabeticRanges.contains c.toNat || numericRanges.contains c.toNat))

/-- White space of any script, line ends included. -/
def isBlank (c : Char) : Bool := blankRanges.contains c.toNat

/-- A character that may begin an identifier. -/
def isIdentifierStart (c : Char) : Bool :=
  c.isAlpha || c = '_' || (beyondAscii c && identifierStartRanges.contains c.toNat)

/-- A character that may continue an identifier. -/
def isIdentifierContinue (c : Char) : Bool :=
  c.isAlphanum || c = '_' || (beyondAscii c && identifierContinueRanges.contains c.toNat)

/-- A character that joins the one before it into a single visible sign. -/
def extendsGrapheme (c : Char) : Bool :=
  beyondAscii c && graphemeExtendRanges.contains c.toNat

/-- A character with a visible form, or the space. -/
def isPrintable (c : Char) : Bool := !unprintableRanges.contains c.toNat

/-- Drops the white space at both ends. -/
def trim (s : String) : String :=
  String.ofList (((s.toList.dropWhile isBlank).reverse.dropWhile isBlank).reverse)

/-- Whether nothing but white space is left of a text. -/
def isBlankText (s : String) : Bool := s.toList.all isBlank

/-- The value of a hexadecimal digit. -/
def hexDigit? (c : Char) : Option Nat :=
  if '0' ≤ c && c ≤ '9' then some (c.toNat - 48)
  else if 'a' ≤ c && c ≤ 'f' then some (c.toNat - 87)
  else if 'A' ≤ c && c ≤ 'F' then some (c.toNat - 55)
  else none

/-- Whether a number is the code point of a character. -/
def isCodePoint (n : Nat) : Bool := n < 0xD800 || (0xE000 ≤ n && n < 0x110000)

end ServiceDispatch.Text
