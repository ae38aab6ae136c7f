import SeriesGateway.Main
import SeriesGateway.Proofs.Archive.Gzip
import SeriesGateway.Proofs.Archive.Tree
import SeriesGateway.Proofs.Binary64.Arithmetic
import SeriesGateway.Proofs.Binary64.Exact
import SeriesGateway.Proofs.Binary64.Nearest
import SeriesGateway.Proofs.Binary64.Shortest
import SeriesGateway.Proofs.Calendar
import SeriesGateway.Proofs.Counters.Balance
import SeriesGateway.Proofs.Counters.EmptyAnswers
import SeriesGateway.Proofs.Counters.Failures
import SeriesGateway.Proofs.DatabaseInfo
import SeriesGateway.Proofs.Failure
import SeriesGateway.Proofs.Instant
import SeriesGateway.Proofs.Jobs
import SeriesGateway.Proofs.Json.Compact
import SeriesGateway.Proofs.Json.Layout
import SeriesGateway.Proofs.Json.Printed
import SeriesGateway.Proofs.Json.Raw
import SeriesGateway.Proofs.Json.Real
import SeriesGateway.Proofs.Json.Value
import SeriesGateway.Proofs.Maintenance.Descriptions
import SeriesGateway.Proofs.Maintenance.DumpBounds
import SeriesGateway.Proofs.Maintenance.DumpedFiles
import SeriesGateway.Proofs.Maintenance.FailedDump
import SeriesGateway.Proofs.Maintenance.Reports
import SeriesGateway.Proofs.Maintenance.Runs
import SeriesGateway.Proofs.Metric.Asked
import SeriesGateway.Proofs.Metric.Range
import SeriesGateway.Proofs.Ordered
import SeriesGateway.Proofs.Query.Clock
import SeriesGateway.Proofs.Query.Distinct
import SeriesGateway.Proofs.Query.Times
import SeriesGateway.Proofs.Report.ArchiveName
import SeriesGateway.Proofs.Report.ArchivePattern
import SeriesGateway.Proofs.Report.ByteCount
import SeriesGateway.Proofs.Report.Table
import SeriesGateway.Proofs.Report.Thousands
import SeriesGateway.Proofs.Report.UnitClimb
import SeriesGateway.Proofs.Rounding
import SeriesGateway.Proofs.Series.Influence
import SeriesGateway.Proofs.Series.Rows
import SeriesGateway.Proofs.Series.Written
import SeriesGateway.Proofs.Service.MissingSamples
import SeriesGateway.Proofs.Service.Moments
import SeriesGateway.Proofs.Service.OneStore
import SeriesGateway.Proofs.Service.SeriesEndpoint
import SeriesGateway.Proofs.Service.SeriesTarget
import SeriesGateway.Proofs.Service.SeriesText
import SeriesGateway.Proofs.Service.Statistics
import SeriesGateway.Proofs.Store.DumpBody
import SeriesGateway.Proofs.Store.DumpDelivery
import SeriesGateway.Proofs.Store.DumpRange
import SeriesGateway.Proofs.Store.DumpRequest
import SeriesGateway.Proofs.Store.Fetches
import SeriesGateway.Proofs.Store.Naming
import SeriesGateway.Proofs.Store.Origin
import SeriesGateway.Proofs.Store.QueryUrl
import SeriesGateway.Proofs.Store.Requests
import SeriesGateway.Proofs.Store.SeriesOutcome
import SeriesGateway.Proofs.Store.Sink
import SeriesGateway.Proofs.Store.Steady
import SeriesGateway.Proofs.Text.Blank
import SeriesGateway.Proofs.Text.Digits
import SeriesGateway.Proofs.Text.Escape
import SeriesGateway.Proofs.Text.Form
import SeriesGateway.Proofs.Text.Numeral
import SeriesGateway.Proofs.Text.Percent
import SeriesGateway.Proofs.Timestamp.Accesses
import SeriesGateway.Proofs.Timestamp.Agreement
import SeriesGateway.Proofs.Timestamp.Canonical
import SeriesGateway.Proofs.Timestamp.Fields
import SeriesGateway.Proofs.Timestamp.Forms
import SeriesGateway.Proofs.Timestamp.Integer
import SeriesGateway.Proofs.Timestamp.Magnitude
import SeriesGateway.Proofs.Timestamp.Rfc3339
import SeriesGateway.Proofs.Timestamp.Truncated
import SeriesGateway.Proofs.Timestamp.Written
import SeriesGateway.Proofs.Url.Path
import SeriesGateway.Proofs.Url.Query
import SeriesGateway.Proofs.Url.Segment
import SeriesGateway.Proofs.Url.Web
import SeriesGateway.Proofs.Window.Grid
import SeriesGateway.Scene
