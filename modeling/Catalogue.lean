import Catalogue.Main
import Catalogue.Score.Builder
import Catalogue.Search.Pool
import Catalogue.Settings.Toml
import Catalogue.Proofs.Outcome
import Catalogue.Proofs.Text.ByteOrder
import Catalogue.Proofs.Float.Finite
import Catalogue.Proofs.Float.Packing
import Catalogue.Proofs.Float.Powers
import Catalogue.Proofs.Float.Product
import Catalogue.Proofs.Json.Finite
import Catalogue.Proofs.Json.Reads
import Catalogue.Proofs.Json.Tokens
import Catalogue.Proofs.Json.Written
import Catalogue.Proofs.Toml.Blocks
import Catalogue.Proofs.Toml.Lines
import Catalogue.Proofs.Toml.Quoted
import Catalogue.Proofs.Toml.Sections
import Catalogue.Proofs.Toml.Values
import Catalogue.Proofs.Files.Absolute
import Catalogue.Proofs.Files.Ancestors
import Catalogue.Proofs.Files.Writing
import Catalogue.Proofs.Index.AtLeast
import Catalogue.Proofs.Index.Moves
import Catalogue.Proofs.Query.Accepted
import Catalogue.Proofs.Query.Faults
import Catalogue.Proofs.Query.Lookups
import Catalogue.Proofs.Query.Meaning
import Catalogue.Proofs.Query.Reading
import Catalogue.Proofs.Query.Reread
import Catalogue.Proofs.Query.Separators
import Catalogue.Proofs.Query.Written
import Catalogue.Proofs.Plan.Meaning
import Catalogue.Proofs.Plan.Refusal
import Catalogue.Proofs.Plan.Summed
import Catalogue.Proofs.Score.Binding
import Catalogue.Proofs.Score.Builder
import Catalogue.Proofs.Score.Builtin
import Catalogue.Proofs.Score.Demand
import Catalogue.Proofs.Score.Evaluation
import Catalogue.Proofs.Score.Memo
import Catalogue.Proofs.Score.Once
import Catalogue.Proofs.Score.Order
import Catalogue.Proofs.Score.Providers
import Catalogue.Proofs.Score.Pruned
import Catalogue.Proofs.Score.Reachable
import Catalogue.Proofs.Score.Rules
import Catalogue.Proofs.Score.Settings
import Catalogue.Proofs.Score.Signs
import Catalogue.Proofs.Score.Soundness
import Catalogue.Proofs.Score.Unused
import Catalogue.Proofs.Score.WellFormed
import Catalogue.Proofs.Score.Wiring
import Catalogue.Proofs.Search.Committed
import Catalogue.Proofs.Search.Complete
import Catalogue.Proofs.Search.Delivery
import Catalogue.Proofs.Search.Explained
import Catalogue.Proofs.Search.FirstFailure
import Catalogue.Proofs.Search.Opening
import Catalogue.Proofs.Search.Position
import Catalogue.Proofs.Search.Protocol
import Catalogue.Proofs.Search.Ranking
import Catalogue.Proofs.Search.Reference
import Catalogue.Proofs.Search.Reports
import Catalogue.Proofs.Search.Results
import Catalogue.Proofs.Search.Scan
import Catalogue.Proofs.Search.Scopes
import Catalogue.Proofs.Search.Soundness
import Catalogue.Proofs.Search.Store
import Catalogue.Proofs.Settings.Closest
import Catalogue.Proofs.Settings.Discovered
import Catalogue.Proofs.Settings.Isolation
import Catalogue.Proofs.Settings.Overridden
import Catalogue.Proofs.Settings.Portable
import Catalogue.Proofs.Settings.Resolved
import Catalogue.Proofs.Settings.Warned
import Catalogue.Proofs.Settings.Written
import Catalogue.Proofs.Command.Add
import Catalogue.Proofs.Command.Check
import Catalogue.Proofs.Command.History
import Catalogue.Proofs.Command.Lines
import Catalogue.Proofs.Command.Start
