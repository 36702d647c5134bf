import ServiceDispatch.Call.Dispatch
import ServiceDispatch.Sample.Calculator
import ServiceDispatch.Sample.Counting
import ServiceDispatch.Sample.Greeter
import ServiceDispatch.Sample.Shapes

/-!
# Sample catalog

All sample contracts with the services behind them, and the registry of their adapters.
-/

namespace ServiceDispatch.Sample

/-- The sample contracts. -/
inductive Name where
  | shapes | visits | greeter | firstCalculator | secondCalculator
  deriving DecidableEq, Repr

namespace Name

/-- All names. -/
def all : List Name := [shapes, visits, greeter, firstCalculator, secondCalculator]

/-- The written form of a name. -/
def display : Name → String
  | shapes => "Shapes"
  | visits => "Visits"
  | greeter => "Greeter"
  | firstCalculator => "v1"
  | secondCalculator => "v2"

/-- The name with a written form. -/
def ofDisplay? (text : String) : Option Name := all.find? fun name => name.display = text

/-- The contract of a name. -/
def contract : Name → ServedContract Content
  | shapes => Shapes.contract
  | visits => Counting.visits
  | greeter => Greeter.contract
  | firstCalculator => Calculator.first
  | secondCalculator => Calculator.second

/-- The type of the service that implements a contract. -/
def serviceType : Name → String
  | shapes => "driver::fixtures::ShapesService"
  | visits => "driver::fixtures::VisitCounter"
  | greeter => "driver::fixtures::GreeterService"
  | firstCalculator | secondCalculator => "driver::fixtures::CalculatorService"

/-- The state that such a service starts with. -/
def initialContent : Name → Content
  | shapes | visits => .counter 0
  | greeter | firstCalculator | secondCalculator => .plain

end Name

/-- The type and the initial state of the sample service of a name; clocks show the time given. -/
def service (name : String) (now : UInt64) : String × Content :=
  match name with
  | "Clock" => (Greeter.clockType, .clock now)
  | "Journal" => (Greeter.journalType, .plain)
  | "Calculator" => (Name.firstCalculator.serviceType, Name.firstCalculator.initialContent)
  | other =>
    let sample := (Name.ofDisplay? other).getD .greeter
    (sample.serviceType, sample.initialContent)

/-- Whether an instance is a journal. -/
def isJournal (built : Instance Content) : Bool := built.typeName == Greeter.journalType

/-- The adapters of all sample contracts, as they are linked into a program. -/
def linked : List (CanonicalKey × Adapter Content) :=
  Name.all.flatMap fun name => name.contract.entries

/-- The registry of all sample adapters, sealed. -/
def registry : AdapterRegistry Content := ((Registry.ofEntries linked).trySeal true).2

end ServiceDispatch.Sample
