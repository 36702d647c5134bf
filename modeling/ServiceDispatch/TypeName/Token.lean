import ServiceDispatch.Text.Character

/-!
# Tokens of a type name

A type name is read as words, lifetimes, path separators, arrows and single marks. White space only
separates tokens. Reading never fails: any character that starts no other token is a mark.
-/

namespace ServiceDispatch.TypeName

/-- One unit of a type name. -/
inductive Token where
  /-- A run of word characters. -/
  | word (text : List Char)
  /-- A quote and the run of word characters after it, possibly empty. -/
  | lifetime (name : List Char)
  /-- A path separator, written `::` or `.`. -/
  | separator
  /-- The arrow `->` before a result type. -/
  | arrow
  /-- Any other character. -/
  | mark (c : Char)
  deriving DecidableEq, Repr

/-- Characters of words: letters and numbers of any script, and the underscore. -/
def isWordChar (c : Char) : Bool := Text.isAlphanumeric c || c = '_'

/-- What is left after a run of characters is no longer than the text. -/
theorem length_dropWhile_le (cs : List Char) (p : Char → Bool) :
    (cs.dropWhile p).length ≤ cs.length :=
  (List.dropWhile_sublist p).length_le

/-- The tokens of a text. -/
def tokenize : List Char → List Token
  | [] => []
  | ':' :: ':' :: rest => .separator :: tokenize rest
  | '-' :: '>' :: rest => .arrow :: tokenize rest
  | c :: rest =>
    if Text.isBlank c then tokenize rest
    else if isWordChar c then
      .word (c :: rest.takeWhile isWordChar) :: tokenize (rest.dropWhile isWordChar)
    else if c = '\'' then
      .lifetime (rest.takeWhile isWordChar) :: tokenize (rest.dropWhile isWordChar)
    else if c = '.' then .separator :: tokenize rest
    else .mark c :: tokenize rest
  termination_by cs => cs.length
  decreasing_by
    all_goals simp only [List.length_cons]
    all_goals have := length_dropWhile_le rest isWordChar; omega

/-- The text of a token: words as they are, every separator as `::`. -/
def Token.text : Token → List Char
  | .word text => text
  | .lifetime name => '\'' :: name
  | .separator => [':', ':']
  | .arrow => ['-', '>']
  | .mark c => [c]

end ServiceDispatch.TypeName
