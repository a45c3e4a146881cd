import SearchClient.Document.Draft
import SearchClient.Query.Render
import SearchClient.Query.Selector
import SearchClient.Settings.Decode
import SearchClient.Settings.Read
import SearchClient.Url.Variable
import SearchClient.Proofs.Query.Built
import SearchClient.Proofs.Query.Outline
import SearchClient.Proofs.Query.Unambiguous
import SearchClient.Proofs.Url.Filters
import SearchClient.Proofs.Time.Calendar
import SearchClient.Proofs.Time.Era
import SearchClient.Proofs.Decimal.Numeral
import SearchClient.Proofs.Time.Stamp
import SearchClient.Proofs.Value.DateRange
import SearchClient.Proofs.Document.Edits
import SearchClient.Proofs.Query.Shape
import SearchClient.Proofs.Query.Grammar
import SearchClient.Proofs.Decimal.Unsigned
import SearchClient.Proofs.Settings.Fields
import SearchClient.Proofs.Settings.Decode
import SearchClient.Proofs.Config.Layers
import SearchClient.Proofs.Config.Variables
import SearchClient.Proofs.Settings.Layers
import SearchClient.Proofs.EnvFile.Loading
import SearchClient.Proofs.Settings.Merged
import SearchClient.Proofs.Document.PlainValues
import SearchClient.Proofs.Json.Values
import SearchClient.Proofs.Json.Reader
import SearchClient.Proofs.Json.Parts
import SearchClient.Proofs.Json.RoundTrip
import SearchClient.Proofs.Document.Text
import SearchClient.Proofs.Settings.Spread
import SearchClient.Proofs.Query.Joins
import SearchClient.Proofs.Query.Reduced
import SearchClient.Proofs.Url.Steps
import SearchClient.Proofs.Time.Order
import SearchClient.Proofs.Value.DateTimeRange
import SearchClient.Proofs.Value.Spanning
import SearchClient.Proofs.Document.Changes
import SearchClient.Proofs.Document.Getters
import SearchClient.Proofs.Document.Summary
import SearchClient.Proofs.Value.Alternatives
import SearchClient.Proofs.Value.Distinct
import SearchClient.Proofs.Url.Paths
import SearchClient.Proofs.Url.Building
import SearchClient.Proofs.Url.Schemes
import SearchClient.Proofs.Settings.Address
import SearchClient.Proofs.Query.Clauses
import SearchClient.Proofs.Decimal.Signed
import SearchClient.Proofs.Value.NumericRange
import SearchClient.Proofs.Text.Names
import SearchClient.Proofs.Time.Elapsed
