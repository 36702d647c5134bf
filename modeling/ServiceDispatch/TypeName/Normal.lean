import ServiceDispatch.TypeName.Path

/-!
# Normal form of a type name

Source text and compilers spell one type in many ways. The normal form drops white space, writes
paths with dots and short names, and spaces marks in one fixed way, so that spellings of one type
become equal texts.
-/

namespace ServiceDispatch.TypeName

/-- A maximal path or another token of a type name. -/
inductive Piece where
  /-- A path by its words; `led` tells whether a separator stood before the first of them. -/
  | path (led : Bool) (segments : List (List Char))
  /-- A lifetime by its name. -/
  | lifetime (name : List Char)
  /-- The arrow before a result type. -/
  | arrow
  /-- A single mark. -/
  | mark (c : Char)
  deriving DecidableEq, Repr

/-- Groups tokens into maximal paths and other pieces. -/
def pieces : List Token → List Piece
  | [] => []
  | .word text :: rest =>
    let read := readPath .separator rest
    .path false (text :: read.1) :: pieces read.2
  | .separator :: rest =>
    let read := readPath .word rest
    .path true read.1 :: pieces read.2
  | .lifetime name :: rest => .lifetime name :: pieces rest
  | .arrow :: rest => .arrow :: pieces rest
  | .mark c :: rest => .mark c :: pieces rest
  termination_by tokens => tokens.length
  decreasing_by
    all_goals simp only [List.length_cons]
    · have := readPath_length_le .separator rest; omega
    · have := readPath_length_le .word rest; omega
    all_goals omega

/-- What the piece before asks of the next one. -/
inductive Before where
  /-- A path or a lifetime, from which a word must be kept apart. -/
  | word
  /-- The mark `>`, after which a separator goes on with a qualified path. -/
  | closing
  /-- Anything else, or the start of the text. -/
  | other
  deriving DecidableEq, Repr

/-- What stands before a path: a dot after a closed qualified type, a blank after a word. -/
def pathLead : Before → Bool → List Char
  | .closing, true => ['.']
  | .word, _ => [' ']
  | _, _ => []

/-- Words joined by dots. -/
def joinSegments : List (List Char) → List Char
  | [] => []
  | [segment] => segment
  | segment :: rest => segment ++ '.' :: joinSegments rest

/-- The written form of a mark. -/
def markText (c : Char) : List Char :=
  if c = ',' then [',', ' ']
  else if c = ';' then [';', ' ']
  else if c = '+' then [' ', '+', ' ']
  else [c]

/-- The text of pieces that stand after a piece of the given kind. -/
def render : Before → List Piece → List Char
  | _, [] => []
  | before, .path led segments :: rest =>
    pathLead before led ++ joinSegments (shorten segments) ++ render .word rest
  | before, .lifetime name :: rest =>
    (if before = .word then [' '] else []) ++ '\'' :: name ++ render .word rest
  | _, .arrow :: rest => [' ', '-', '>', ' '] ++ render .other rest
  | _, .mark c :: rest =>
    markText c ++ render (if c = '>' then .closing else .other) rest

/-- The normal form of a type name, on characters. -/
def normalizeChars (raw : List Char) : List Char :=
  render .other (pieces (tokenize raw))

/-- The normal form of a type name. -/
def normalize (raw : String) : String := String.ofList (normalizeChars raw.toList)

end ServiceDispatch.TypeName
