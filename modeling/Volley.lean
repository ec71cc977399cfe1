import Volley.Bench.Gate
import Volley.Bench.Refill
import Volley.Bench.Schedule
import Volley.Bench.Workers
import Volley.Builtin
import Volley.Calendar.Date
import Volley.Calendar.Directive
import Volley.Calendar.Instant
import Volley.Calendar.Layout
import Volley.Calendar.Zone
import Volley.CommandLine
import Volley.Count
import Volley.Decimal.Binary
import Volley.Decimal.Fixed
import Volley.Decimal.Layout
import Volley.Decimal.Shortest
import Volley.Dictionary
import Volley.Disk
import Volley.Fault
import Volley.Host.Basic
import Volley.Host.Domain
import Volley.Host.Dotted
import Volley.Host.Grouped
import Volley.Json.Basic
import Volley.Json.Spelled
import Volley.Json.Value
import Volley.Json.Written
import Volley.JsonPath.Basic
import Volley.JsonPath.Location
import Volley.JsonPath.Parser
import Volley.JsonPath.Select
import Volley.JsonPath.Written
import Volley.LineCache
import Volley.Main
import Volley.Message
import Volley.Mock.Identity
import Volley.Mock.Registry
import Volley.Mock.Shape
import Volley.Network.Address
import Volley.Network.Basic
import Volley.Network.Target
import Volley.Program
import Volley.Proofs.Text.Cut
import Volley.Report.Basic
import Volley.Report.Quantity
import Volley.Report.Render
import Volley.Report.Stat
import Volley.RequestFile.Basic
import Volley.RequestFile.Copy
import Volley.RequestFile.Line
import Volley.RequestFile.Lookup
import Volley.RequestFile.Reader
import Volley.Run.Basic
import Volley.Run.Prepared
import Volley.Run.Session
import Volley.Run.Trace
import Volley.Settings.Basic
import Volley.Settings.Document
import Volley.Settings.Excerpt
import Volley.Template
import Volley.Text.Combining
import Volley.Text.Composition
import Volley.Text.Cut
import Volley.Text.Digit
import Volley.Text.Direction
import Volley.Text.Excluded
import Volley.Text.Folding
import Volley.Text.Hidden
import Volley.Text.Integer
import Volley.Text.Joining
import Volley.Text.Lines
import Volley.Text.Mark
import Volley.Text.Percent
import Volley.Text.Punycode
import Volley.Text.Quoted
import Volley.Text.Ranges
import Volley.Text.Stream
import Volley.Text.Utf8
import Volley.Text.White
import Volley.Text.Word
import Volley.World
import Volley.Proofs.Template.Pieces
import Volley.Proofs.Template.Fusion
import Volley.Proofs.RequestFile.Recorded
import Volley.Proofs.Run.Attempt
import Volley.Proofs.Run.FailFast
import Volley.Proofs.RequestFile.Expansion
import Volley.Proofs.Run.Expansion
import Volley.Proofs.Message.Document
import Volley.Proofs.RequestFile.Reference
import Volley.Proofs.Template.Grammar
import Volley.Proofs.Run.Attempts
import Volley.Proofs.RequestFile.Referent
import Volley.Proofs.Run.Past
import Volley.Proofs.Text.Lines
import Volley.Proofs.Text.White
import Volley.RequestFile.Written
import Volley.Proofs.RequestFile.Line
import Volley.Proofs.Bench.Accounts
import Volley.Proofs.RequestFile.RoundTrip
import Volley.Proofs.Report.Arrival
import Volley.Proofs.Dictionary
import Volley.Proofs.RequestFile.Separation
import Volley.Proofs.JsonPath.Place
import Volley.Proofs.JsonPath.Selection
import Volley.Proofs.Text.Integer
import Volley.Proofs.JsonPath.RoundTrip
import Volley.Proofs.RequestFile.Sources
import Volley.Proofs.Run.Trace
import Volley.Proofs.Run.Session
import Volley.Proofs.JsonPath.Root
import Volley.JsonPath.Route
import Volley.Proofs.Bench.Rate
import Volley.Proofs.JsonPath.Route
import Volley.Proofs.JsonPath.Order
import Volley.Proofs.RequestFile.Grammar
import Volley.Proofs.RequestFile.Said
import Volley.Proofs.RequestFile.Body
import Volley.Proofs.Decimal.Fields
import Volley.Proofs.Decimal.Product
import Volley.Proofs.Report.Percentile
import Volley.Proofs.Calendar.Date
import Volley.Proofs.Calendar.Offset
import Volley.Proofs.Calendar.Zone
import Volley.Proofs.Calendar.Layout
import Volley.LineCache.Calls
import Volley.Proofs.Disk
import Volley.Proofs.LineCache
import Volley.Proofs.Calendar.Field
import Volley.Proofs.Mock.Identity
import Volley.Proofs.Mock.Outline
import Volley.Proofs.Mock.Registry
import Volley.Proofs.Builtin
import Volley.Proofs.Decimal.Order
import Volley.Proofs.Decimal.Rounding
import Volley.Proofs.Decimal.Bound
import Volley.Proofs.Decimal.Fixed
import Volley.Report.Amount
import Volley.Proofs.Report.Amount
import Volley.Proofs.Report.Quantity
import Volley.Proofs.Template.Empty
import Volley.Proofs.Report.Grouping
import Volley.Proofs.Json.Reading
import Volley.Proofs.Json.Compact
import Volley.Proofs.Settings.Excerpt
