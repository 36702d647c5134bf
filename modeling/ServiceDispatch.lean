import ServiceDispatch.AdapterPlan
import ServiceDispatch.Call.Adapter
import ServiceDispatch.Call.Context
import ServiceDispatch.Call.Contract
import ServiceDispatch.Call.Dispatch
import ServiceDispatch.Call.Hosting
import ServiceDispatch.Call.Injection
import ServiceDispatch.Call.Method
import ServiceDispatch.Call.State
import ServiceDispatch.Call.Visit
import ServiceDispatch.Call.Wrapper
import ServiceDispatch.CanonicalKey
import ServiceDispatch.Config.Environment
import ServiceDispatch.Config.Files
import ServiceDispatch.Config.Loading
import ServiceDispatch.Config.Saving
import ServiceDispatch.Config.Settings
import ServiceDispatch.Config.Stored
import ServiceDispatch.Datum
import ServiceDispatch.Event
import ServiceDispatch.Failure
import ServiceDispatch.FailureData
import ServiceDispatch.Generate.Argument
import ServiceDispatch.Generate.Code
import ServiceDispatch.Generate.Contract
import ServiceDispatch.Generate.ContractCode
import ServiceDispatch.Generate.Delegation
import ServiceDispatch.Generate.Diagnostic
import ServiceDispatch.Generate.Marker
import ServiceDispatch.Generate.WrapperCode
import ServiceDispatch.Host.Channel
import ServiceDispatch.Host.Endpoint
import ServiceDispatch.Host.Opening
import ServiceDispatch.Host.Switchboard
import ServiceDispatch.InputBuffer
import ServiceDispatch.Keyed
import ServiceDispatch.Lifetime
import ServiceDispatch.Message
import ServiceDispatch.Registry
import ServiceDispatch.ResolutionPlan
import ServiceDispatch.Sample.Calculator
import ServiceDispatch.Sample.Catalog
import ServiceDispatch.Sample.Content
import ServiceDispatch.Sample.Counting
import ServiceDispatch.Sample.Greeter
import ServiceDispatch.Sample.Registration
import ServiceDispatch.Sample.Shapes
import ServiceDispatch.Service.Collection
import ServiceDispatch.Service.Container
import ServiceDispatch.Service.Key
import ServiceDispatch.Service.Recipe
import ServiceDispatch.Service.Resolution
import ServiceDispatch.Service.Retention
import ServiceDispatch.Service.Workbench
import ServiceDispatch.Signature
import ServiceDispatch.SignatureData
import ServiceDispatch.Source.Attribute
import ServiceDispatch.Source.Grammar.Attribute
import ServiceDispatch.Source.Grammar.Declaration
import ServiceDispatch.Source.Grammar.Expression
import ServiceDispatch.Source.Grammar.Item
import ServiceDispatch.Source.Grammar.Knot
import ServiceDispatch.Source.Grammar.Levels
import ServiceDispatch.Source.Grammar.Method
import ServiceDispatch.Source.Grammar.Pattern
import ServiceDispatch.Source.Grammar.Statement
import ServiceDispatch.Source.Grammar.Type
import ServiceDispatch.Source.Item
import ServiceDispatch.Source.Lexeme
import ServiceDispatch.Source.Lexer
import ServiceDispatch.Source.Literal
import ServiceDispatch.Source.Reader
import ServiceDispatch.Source.Ty
import ServiceDispatch.Text.Case
import ServiceDispatch.Text.Character
import ServiceDispatch.Text.Property.Alphabetic
import ServiceDispatch.Text.Property.Blank
import ServiceDispatch.Text.Property.CaseIgnorable
import ServiceDispatch.Text.Property.CaseMap
import ServiceDispatch.Text.Property.Cased
import ServiceDispatch.Text.Property.GraphemeExtend
import ServiceDispatch.Text.Property.IdentifierContinue
import ServiceDispatch.Text.Property.IdentifierStart
import ServiceDispatch.Text.Property.Numeric
import ServiceDispatch.Text.Property.Unprintable
import ServiceDispatch.Text.Quoted
import ServiceDispatch.Text.Ranges
import ServiceDispatch.Text.Record
import ServiceDispatch.Toml.Grammar
import ServiceDispatch.Toml.Layout
import ServiceDispatch.Toml.Scalar
import ServiceDispatch.Toml.Table
import ServiceDispatch.Toml.Text
import ServiceDispatch.TypeName.Normal
import ServiceDispatch.TypeName.Path
import ServiceDispatch.TypeName.Token
import ServiceDispatch.Value
import ServiceDispatch.ValueData
import ServiceDispatch.WrapperPlan
import ServiceDispatch.Proofs.CanonicalKey.Reading
import ServiceDispatch.Proofs.Registry.Ledger
import ServiceDispatch.Proofs.Service.Running
import ServiceDispatch.Proofs.Service.Steps
import ServiceDispatch.Proofs.Service.Growth
import ServiceDispatch.Proofs.Service.Order
import ServiceDispatch.Proofs.Call.Bindings
import ServiceDispatch.Proofs.Call.Delegation
import ServiceDispatch.Proofs.Host.Activation
import ServiceDispatch.Proofs.Host.Opening
import ServiceDispatch.Proofs.Host.Attendance
import ServiceDispatch.Proofs.Host.Counting
import ServiceDispatch.Proofs.Host.Reuse
import ServiceDispatch.Proofs.Call.Dispatch
import ServiceDispatch.Proofs.Call.Adaptation
import ServiceDispatch.Proofs.Generate.AdapterBody
import ServiceDispatch.Proofs.Generate.Adapter
import ServiceDispatch.Proofs.Host.Endpoints
import ServiceDispatch.Proofs.Host.Commands
import ServiceDispatch.Proofs.Host.Calls
import ServiceDispatch.Proofs.Host.Integrity
import ServiceDispatch.Proofs.Call.Scopes
import ServiceDispatch.Proofs.Host.Scopes
import ServiceDispatch.Proofs.Call.Moves
import ServiceDispatch.Proofs.Service.Given
import ServiceDispatch.Proofs.Call.Injections
import ServiceDispatch.Proofs.Host.Injections
import ServiceDispatch.Proofs.Host.Course
import ServiceDispatch.Proofs.Host.Isolation
import ServiceDispatch.Proofs.TypeName.Composition
import ServiceDispatch.Proofs.TypeName.GlobalPath
import ServiceDispatch.Proofs.Container.History
import ServiceDispatch.Proofs.Container.Keeping
import ServiceDispatch.Proofs.Container.Timeline
import ServiceDispatch.Proofs.Container.Commands
import ServiceDispatch.Proofs.Container.Registration
import ServiceDispatch.Proofs.Container.Identity
import ServiceDispatch.Proofs.Container.Origin
import ServiceDispatch.Proofs.Container.Confinement
import ServiceDispatch.Proofs.Source.Literals
import ServiceDispatch.Proofs.Generate.Reading
import ServiceDispatch.Proofs.Generate.Balance
import ServiceDispatch.Proofs.Generate.Items
import ServiceDispatch.Proofs.Generate.Emission
import ServiceDispatch.Proofs.TypeName.ModulePath
import ServiceDispatch.Proofs.Generate.Statics
import ServiceDispatch.Proofs.TypeName.Reduction
import ServiceDispatch.Proofs.TypeName.Canonical
import ServiceDispatch.Proofs.TypeName.Respelling
import ServiceDispatch.Proofs.Service.Log
import ServiceDispatch.Proofs.Host.Validity
import ServiceDispatch.Proofs.Generate.Conflict
import ServiceDispatch.Proofs.Generate.Acceptance
import ServiceDispatch.Proofs.Call.Sessions
import ServiceDispatch.Proofs.Generate.ItemNames
import ServiceDispatch.Proofs.Container.Plans
import ServiceDispatch.Proofs.Container.Asking
import ServiceDispatch.Proofs.Container.Factories
import ServiceDispatch.Proofs.Container.Sharing
import ServiceDispatch.Proofs.Container.Outcome
import ServiceDispatch.Proofs.Call.Admission
import ServiceDispatch.Proofs.Call.Surfacing
import ServiceDispatch.Proofs.Generate.Surfacing
import ServiceDispatch.Proofs.Generate.Binding
import ServiceDispatch.Proofs.Generate.Injections
import ServiceDispatch.Proofs.Source.Receivers
import ServiceDispatch.Proofs.Generate.ScopeReading
import ServiceDispatch.Proofs.Generate.Wrapping
import ServiceDispatch.Proofs.Generate.WrapperBody
import ServiceDispatch.Proofs.Generate.Wrapper
import ServiceDispatch.Proofs.Call.Slots
import ServiceDispatch.Proofs.Source.Returns
import ServiceDispatch.Proofs.Generate.Fallibility
import ServiceDispatch.Proofs.Generate.Rewriting
import ServiceDispatch.Proofs.TypeName.Slices
import ServiceDispatch.Proofs.TypeName.Progress
