import ServiceDispatch.Text.Character
import ServiceDispatch.Text.Property.CaseIgnorable
import ServiceDispatch.Text.Property.CaseMap
import ServiceDispatch.Text.Property.Cased

/-!
# Upper and lower case

Full case conversion of texts: a character may become several, and a capital sigma at the end of a
word becomes the final small sigma. No locale takes part.
-/

namespace ServiceDispatch.Text

/-- The image of a code point under a table of runs, if a row moves it. -/
def CaseRun.image? (runs : List CaseRun) (code : Nat) : Option Nat :=
  (runs.find? fun run =>
      run.first ≤ code && code ≤ run.last && (code - run.first) % run.step = 0).map
    fun run => run.image + (code - run.first)

/-- The several code points that a long table puts in place of one. -/
def longImage? (table : List (Nat × List Nat)) (code : Nat) : Option (List Nat) :=
  (table.find? fun row => row.1 = code).map Prod.snd

/-- Applies the tables of one direction to a character outside ASCII. -/
def mapCase (long : List (Nat × List Nat)) (runs : List CaseRun) (c : Char) : List Char :=
  match longImage? long c.toNat with
  | some codes => codes.map Char.ofNat
  | none =>
    match CaseRun.image? runs c.toNat with
    | some code => [Char.ofNat code]
    | none => [c]

/-- The upper-case form of one character. -/
def upperChar (c : Char) : List Char :=
  if beyondAscii c then mapCase upperLong upperRuns c else [c.toUpper]

/-- The lower-case form of one character, whatever stands around it. -/
def lowerChar (c : Char) : List Char :=
  if beyondAscii c then mapCase lowerLong lowerRuns c else [c.toLower]

/-- A character with upper, lower or title case. -/
def isCased (c : Char) : Bool := casedRanges.contains c.toNat

/-- A character that is skipped when looking for the cased neighbours of a sigma. -/
def isCaseIgnorable (c : Char) : Bool := caseIgnorableRanges.contains c.toNat

/-- Whether the first character that is not ignorable is cased. -/
def startsCased (cs : List Char) : Bool :=
  match cs.dropWhile isCaseIgnorable with
  | [] => false
  | c :: _ => isCased c

/-- Lower-case form of a text whose characters before `rest` are `before`, last one first. -/
def lowerFrom (before : List Char) : List Char → List Char
  | [] => []
  | c :: rest =>
    let image :=
      if c = 'Σ' then (if startsCased before && !startsCased rest then ['ς'] else ['σ'])
      else lowerChar c
    image ++ lowerFrom (c :: before) rest

/-- The text in lower case. -/
def toLower (s : String) : String := String.ofList (lowerFrom [] s.toList)

/-- The text in upper case. -/
def toUpper (s : String) : String := String.ofList (s.toList.flatMap upperChar)

end ServiceDispatch.Text
