import ServiceDispatch.Sample.Content

/-!
# Sample: calculators

Two contracts of one name in two modules, whose operations differ only in the module of their keys.
-/

namespace ServiceDispatch.Sample.Calculator

/-- Adds two numbers and a constant. -/
def add (offset : Int32) : Method Content
  | _, [.i32 a, .i32 b] => pure (.value (.i32 (a + b + offset)))
  | _, _ => misfit

/-- The calculator of a module. -/
def contract (module_ : String) (offset : Int32) : ServedContract Content :=
  .ofOperations (module_ ++ "::Calculator") ("dyn " ++ module_ ++ "::Calculator")
    [(⟨"add", [("a", .i32, .input), ("b", .i32, .input)], false, true, false⟩, add offset)]

/-- The first calculator. -/
def first : ServedContract Content := contract "driver::fixtures::v1" 0

/-- The second calculator. -/
def second : ServedContract Content := contract "driver::fixtures::v2" 1000

end ServiceDispatch.Sample.Calculator
