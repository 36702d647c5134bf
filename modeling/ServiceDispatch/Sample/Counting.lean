import ServiceDispatch.Sample.Content

/-!
# Sample: counting

A contract of one operation, which counts the calls that its own instance has served.
-/

namespace ServiceDispatch.Sample.Counting

/-- Counts a call and answers how many there were. -/
def visit : Method Content := fun object _ => do
  change object .increment
  pure (.value (.usize (.ofNat (← contentOf object).count)))

/-- A counting contract of any name and type. -/
def contract (name typeName operation : String) : ServedContract Content :=
  .ofOperations name typeName [(⟨operation, [], false, true, false⟩, visit)]

/-- The counting contract among the samples. -/
def visits : ServedContract Content :=
  contract "matrix::Visits" "dyn driver::fixtures::Visits" "visit"

end ServiceDispatch.Sample.Counting
