import ReactiveModel.Expansion
import ReactiveModel.Live.Counter
import ReactiveModel.Live.Gauge
import ReactiveModel.Live.Hub
import ReactiveModel.Live.PingPong
import ReactiveModel.Live.Session
import ReactiveModel.Proofs.Dependency.Chain
import ReactiveModel.Proofs.Dependency.Shadowing
import ReactiveModel.Proofs.Emission.Cascade
import ReactiveModel.Proofs.Expansion.Placement
import ReactiveModel.Proofs.Live.Derived
import ReactiveModel.Proofs.Property.Attribution
import ReactiveModel.Proofs.Property.Precedence
import ReactiveModel.Proofs.Class.Violation
import ReactiveModel.Proofs.Dependency.Elementary
import ReactiveModel.Proofs.Dependency.SetterCall
import ReactiveModel.Proofs.Text.IdentifierCase
import ReactiveModel.Proofs.Property.Spelling
import ReactiveModel.Proofs.Code.Expression
import ReactiveModel.Proofs.Dependency.MacroScan
import ReactiveModel.Proofs.Generation.Unit
import ReactiveModel.Proofs.Generation.Isolation
import ReactiveModel.Proofs.Expansion.Agreement
import ReactiveModel.Proofs.Emission.Unmarked
import ReactiveModel.Proofs.Expansion.Frame
import ReactiveModel.Proofs.Grammar.Item
import ReactiveModel.Proofs.Expansion.Models
import ReactiveModel.Proofs.Live.Subscription
import ReactiveModel.Proofs.Live.Binding
import ReactiveModel.Proofs.Emission.Call
import ReactiveModel.Proofs.Generation.CyclePolicy
import ReactiveModel.Proofs.Expansion.Standalone
import ReactiveModel.Proofs.Dependency.ReferenceScan
import ReactiveModel.Proofs.Dependency.MacroWord
import ReactiveModel.Proofs.Marker.Spelling
import ReactiveModel.Proofs.Class.Location
import ReactiveModel.Proofs.Class.Search
import ReactiveModel.Proofs.Class.Handler
import ReactiveModel.Proofs.Class.Pairing
import ReactiveModel.Proofs.Property.Prefix
import ReactiveModel.Proofs.Text.SnakeCase
import ReactiveModel.Proofs.Property.RoundTrip
import ReactiveModel.Proofs.Live.Doubling
import ReactiveModel.Proofs.Token.StringLiteral
import ReactiveModel.Proofs.Emission.Element
import ReactiveModel.Proofs.Dependency.ReferenceOrder
import ReactiveModel.Proofs.Dependency.Addition
