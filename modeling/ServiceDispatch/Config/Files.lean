import ServiceDispatch.Keyed

/-!
# Files by path

The files below a working directory. A path is walked name by name, so that every name before the
last one has to lead to a directory, even one that the walk leaves again.
-/

namespace ServiceDispatch

/-- Files with their texts, by path from the working directory. -/
abbrev Files := Keyed String String

namespace Files

/-- Where a walk along a path has come. -/
inductive Place where
  /-- A directory, by the names that lead to it. -/
  | directory (names : List String)
  /-- A file, by its text. -/
  | file (text : String)
  /-- Some directory around the working directory. -/
  | outside
  deriving DecidableEq, Repr

/-- The directories that the walk to a file goes through, and the names that lead to the file. -/
def trail : (current names : List String) → List (List String) × List String
  | current, [] => ([], current)
  | current, name :: rest =>
    let next :=
      if name = "" || name = "." then current
      else if name = ".." then current.dropLast
      else current ++ [name]
    let (directories, last) := trail next rest
    (current :: directories, last)

/-- The trail of the file that is stored under a path. -/
def trailOf (path : String) : List (List String) × List String := trail [] (path.splitOn "/")

/-- The text of the file that names lead to. -/
def at? (files : Files) (names : List String) : Option String :=
  (files.entries.find? fun entry => (trailOf entry.1).2 = names).map Prod.snd

/-- The directory of the user's own settings, which is always there. -/
def home : String := "home"

/-- Whether names lead to a directory. -/
def isDirectory (files : Files) (names : List String) : Bool :=
  names = [] || names = [home] || files.keys.any fun key => (trailOf key).1.contains names

/-- One step of a walk. Nothing lies in a file, not even the file itself. -/
def step? (files : Files) (place : Place) (name : String) : Option Place :=
  match place with
  | .file _ => none
  | .outside => if name = "" || name = "." || name = ".." then some .outside else none
  | .directory names =>
    if name = "" || name = "." then some place
    else if name = ".." then
      some (if names.isEmpty then .outside else .directory names.dropLast)
    else
      match files.at? (names ++ [name]) with
      | some text => some (.file text)
      | none =>
        if files.isDirectory (names ++ [name]) then some (.directory (names ++ [name])) else none

/-- Where a path leads, if it leads anywhere. A slash in front leads away from the working
directory. -/
def locate? (files : Files) (path : String) : Option Place :=
  if path = "" then none
  else
    (path.splitOn "/").foldlM files.step?
      (if path.startsWith "/" then .outside else .directory [])

/-- The text of the file at a path. -/
def read? (files : Files) (path : String) : Option String :=
  match files.locate? path with
  | some (.file text) => some text
  | _ => none

/-- Whether a path leads to a file or a directory. -/
def contains (files : Files) (path : String) : Bool := (files.locate? path).isSome

/-- Writes a file, whose directory has to exist. -/
def write? (files : Files) (path text : String) : Option Files :=
  if files.isDirectory (trailOf path).2.dropLast then some (files.insert path text) else none

end Files

end ServiceDispatch
