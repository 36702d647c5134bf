import ServiceDispatch.Text.Quoted

/-!
# Displayed records

The displayed form of a value with named fields, of lists and of optional values, as logs and
`debug` views show them.
-/

namespace ServiceDispatch.Text

/-- A record by its name and fields; `partly` marks a record that shows only some of its fields. -/
def record (name : String) (fields : List (String × String)) (partly : Bool) : String :=
  let shown := fields.map fun field => field.1 ++ ": " ++ field.2
  let parts := if partly then shown ++ [".."] else shown
  if parts.isEmpty then name
  else name ++ " \x7b " ++ String.intercalate ", " parts ++ " \x7d"

/-- A list of displayed elements. -/
def listing (elements : List String) : String :=
  "[" ++ String.intercalate ", " elements ++ "]"

/-- An optional displayed value. -/
def optional : Option String → String
  | none => "None"
  | some text => "Some(" ++ text ++ ")"

/-- A truth value. -/
def truth (b : Bool) : String := if b then "true" else "false"

end ServiceDispatch.Text
