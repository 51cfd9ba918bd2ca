import MetricFeed.Attempt
import MetricFeed.Batch
import MetricFeed.ChangeFilter
import MetricFeed.Channel
import MetricFeed.Command
import MetricFeed.Command.Reader
import MetricFeed.Entity
import MetricFeed.Json.Literal
import MetricFeed.Json.Numeral
import MetricFeed.Json.Reader
import MetricFeed.Json.Value
import MetricFeed.Link
import MetricFeed.Main
import MetricFeed.Name
import MetricFeed.Number.Binary
import MetricFeed.Number.Decimal
import MetricFeed.Number.Layout
import MetricFeed.Number.Reading
import MetricFeed.Number.Rounding
import MetricFeed.Number.Shortest
import MetricFeed.Outage
import MetricFeed.Program.Arguments
import MetricFeed.Program.Run
import MetricFeed.Proofs.ChannelMoves
import MetricFeed.Proofs.Closing
import MetricFeed.Proofs.Conservation
import MetricFeed.Proofs.Consistency
import MetricFeed.Proofs.Course
import MetricFeed.Proofs.Decoding
import MetricFeed.Proofs.Definitions
import MetricFeed.Proofs.DerivedSeries
import MetricFeed.Proofs.Doubles
import MetricFeed.Proofs.Enrolment
import MetricFeed.Proofs.EntityNames
import MetricFeed.Proofs.ExecTags
import MetricFeed.Proofs.Fates
import MetricFeed.Proofs.Figures
import MetricFeed.Proofs.FilterHistory
import MetricFeed.Proofs.GeneralTexts
import MetricFeed.Proofs.Intake
import MetricFeed.Proofs.Isolation
import MetricFeed.Proofs.Journal
import MetricFeed.Proofs.JsonEnd
import MetricFeed.Proofs.JsonIntegers
import MetricFeed.Proofs.KeyOrder
import MetricFeed.Proofs.LastLines
import MetricFeed.Proofs.Lines
import MetricFeed.Proofs.LinkRuns
import MetricFeed.Proofs.Lockstep
import MetricFeed.Proofs.MetricNames
import MetricFeed.Proofs.OutageReports
import MetricFeed.Proofs.Pacing
import MetricFeed.Proofs.PropertyPacing
import MetricFeed.Proofs.Readiness
import MetricFeed.Proofs.Refusals
import MetricFeed.Proofs.Rejections
import MetricFeed.Proofs.Rows
import MetricFeed.Proofs.Scribe
import MetricFeed.Proofs.Sessions
import MetricFeed.Proofs.Setbacks
import MetricFeed.Proofs.Suppression
import MetricFeed.Proofs.Tallies
import MetricFeed.Proofs.Traffic
import MetricFeed.Proofs.Unread
import MetricFeed.Proofs.ValueFields
import MetricFeed.Proofs.ValueTexts
import MetricFeed.Proofs.Waiting
import MetricFeed.Proofs.WriterMoves
import MetricFeed.Protocol
import MetricFeed.Record
import MetricFeed.Rule
import MetricFeed.Sample
import MetricFeed.Series
import MetricFeed.SeriesKey
import MetricFeed.Settings.Basic
import MetricFeed.Settings.Form
import MetricFeed.Settings.OfJson
import MetricFeed.Settings.OfYaml
import MetricFeed.Tags
import MetricFeed.Text.Ascii
import MetricFeed.Text.Blank
import MetricFeed.Text.Hex
import MetricFeed.Text.Quoted
import MetricFeed.Text.Shown
import MetricFeed.Text.Split
import MetricFeed.Text.Unprintable
import MetricFeed.Text.Utf8
import MetricFeed.Time
import MetricFeed.ValueText
import MetricFeed.World
import MetricFeed.Writer.Basic
import MetricFeed.Writer.Properties
import MetricFeed.Writer.Samples
import MetricFeed.Yaml.Block
import MetricFeed.Yaml.Cursor
import MetricFeed.Yaml.Lexer
import MetricFeed.Yaml.Node
import MetricFeed.Yaml.Plain
import MetricFeed.Yaml.Quoted
import MetricFeed.Yaml.Scalar
import MetricFeed.Yaml.Token
