import CrossAudit.Entity.Codec
import CrossAudit.Main
import CrossAudit.Proofs.Audit.Failure
import CrossAudit.Proofs.Graph.ComponentSearch
import CrossAudit.Proofs.Graph.CycleSearch
import CrossAudit.Proofs.Http.Normalization
import CrossAudit.Proofs.Reference.Build
import CrossAudit.Proofs.Assoc
import CrossAudit.Proofs.Contract.Pairing
import CrossAudit.Proofs.Contract.Agreement
import CrossAudit.Proofs.Number.ExactSum
import CrossAudit.Proofs.Number.Rounding
import CrossAudit.Proofs.Report.Merge
import CrossAudit.Proofs.Audit.Phase
import CrossAudit.Proofs.Audit.Isolation
import CrossAudit.Proofs.Entity.IdPool
import CrossAudit.Proofs.Entity.Naming
import CrossAudit.Proofs.Entity.Independence
import CrossAudit.Proofs.Entity.Uniqueness
import CrossAudit.Proofs.Entity.Ownership
import CrossAudit.Proofs.Syntax.Places
import CrossAudit.Proofs.Adapter.Requests
import CrossAudit.Proofs.Contract.Carriage
import CrossAudit.Proofs.Json.Quotation
import CrossAudit.Proofs.Text.Lines
import CrossAudit.Proofs.Wire.LastLine
import CrossAudit.Proofs.Contract.Readability
import CrossAudit.Proofs.Wire.Metadata
import CrossAudit.Proofs.Json.Keys
import CrossAudit.Proofs.Wire.Spelling
import CrossAudit.Proofs.Index.History
import CrossAudit.Proofs.Console.Separation
import CrossAudit.Proofs.Graph.Depth
import CrossAudit.Proofs.Graph.Order
import CrossAudit.Proofs.Graph.Ball
import CrossAudit.Proofs.Graph.EdgeWalk
import CrossAudit.Proofs.Graph.FoundCycles
import CrossAudit.Proofs.Graph.LongestWalk
import CrossAudit.Proofs.Graph.References
import CrossAudit.Proofs.Pass.Files
import CrossAudit.Proofs.Task.Complaints
import CrossAudit.Proofs.Launcher.Course
import CrossAudit.Proofs.Launcher.Books
import CrossAudit.Proofs.Launcher.Readiness
import CrossAudit.Proofs.Audit.Agreement
import CrossAudit.Proofs.Task.Cancellation
import CrossAudit.Proofs.Task.Diagnosis
import CrossAudit.Proofs.Reference.Mirroring
import CrossAudit.Proofs.Audit.Severity
import CrossAudit.Proofs.Json.Requoting
import CrossAudit.Proofs.Reference.Closest
import CrossAudit.Proofs.Text.Pieces
import CrossAudit.Proofs.Reference.Imports
import CrossAudit.Proofs.Syntax.Walk
import CrossAudit.Proofs.Syntax.Conversion
import CrossAudit.Proofs.Syntax.Ancestors
import CrossAudit.Proofs.Syntax.Faithful
import CrossAudit.Proofs.Adapter.Complexity
import CrossAudit.Proofs.Adapter.Members
import CrossAudit.Proofs.Adapter.Methods
import CrossAudit.Proofs.Repetition
import CrossAudit.Proofs.Pass.Repetition
import CrossAudit.Proofs.Text.Occurrence
import CrossAudit.Proofs.Json.ScriptEnd
import CrossAudit.Proofs.Graph.Page
import CrossAudit.Proofs.Graph.Quoting
import CrossAudit.Proofs.Graph.Reading
import CrossAudit.Proofs.Graph.Focus
import CrossAudit.Proofs.Schema.Difference
import CrossAudit.Proofs.Schema.Drift
import CrossAudit.Proofs.Text.Ends
import CrossAudit.Proofs.Text.Classes
import CrossAudit.Proofs.Launcher.VersionOrder
import CrossAudit.Proofs.Schema.Nesting
import CrossAudit.Proofs.Http.Union
import CrossAudit.Proofs.Contract.Nullability
import CrossAudit.Proofs.Schema.ArrayText
import CrossAudit.Proofs.Schema.Spelling
import CrossAudit.Proofs.Launcher.Lookup
import CrossAudit.Proofs.Toml.Alike
import CrossAudit.Proofs.Config.Saving
import CrossAudit.Proofs.Graph.Score
import CrossAudit.Proofs.Discovery
import CrossAudit.Proofs.Adapter.Ownership
import CrossAudit.Proofs.Entity.Search
