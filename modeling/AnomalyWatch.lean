import AnomalyWatch.Anomaly
import AnomalyWatch.Collection.Arrival
import AnomalyWatch.Collection.Sorted
import AnomalyWatch.CommandLine
import AnomalyWatch.CommandLine.Help
import AnomalyWatch.Config.Basic
import AnomalyWatch.Config.Dotenv
import AnomalyWatch.Config.Environment
import AnomalyWatch.Cron.Field
import AnomalyWatch.Cron.Schedule
import AnomalyWatch.Cron.Tick
import AnomalyWatch.Decimal.Layout
import AnomalyWatch.Decimal.Reading
import AnomalyWatch.Decimal.Shortest
import AnomalyWatch.Detection.Catalogue
import AnomalyWatch.Detection.Detector
import AnomalyWatch.Detection.Exploration
import AnomalyWatch.Detection.Threshold
import AnomalyWatch.Dialogue
import AnomalyWatch.Document.AnomalyRecord
import AnomalyWatch.Document.Format
import AnomalyWatch.Document.JsonFormat
import AnomalyWatch.Document.SpecRecord
import AnomalyWatch.Document.SummaryRecord
import AnomalyWatch.Document.YamlFormat
import AnomalyWatch.Error
import AnomalyWatch.Files.Name
import AnomalyWatch.Files.SpecDirectory
import AnomalyWatch.Files.Tree
import AnomalyWatch.Json.Basic
import AnomalyWatch.Json.Number
import AnomalyWatch.Json.Parser
import AnomalyWatch.Main
import AnomalyWatch.Metric.Reply
import AnomalyWatch.Metric.Service
import AnomalyWatch.Metric.Status
import AnomalyWatch.Metric.Wire
import AnomalyWatch.Pass.Job
import AnomalyWatch.Pass.Surroundings
import AnomalyWatch.Program
import AnomalyWatch.Proofs.Cron.Normal
import AnomalyWatch.Proofs.Cron.Tick
import AnomalyWatch.Proofs.Decimal.Rounding
import AnomalyWatch.Proofs.Decimal.Written
import AnomalyWatch.Proofs.Detection.Accounts
import AnomalyWatch.Proofs.Detection.Blind
import AnomalyWatch.Proofs.Detection.Exploration
import AnomalyWatch.Proofs.Detection.Judgement
import AnomalyWatch.Proofs.Detection.Threshold
import AnomalyWatch.Proofs.Dialogue.Trail
import AnomalyWatch.Proofs.Document.AnomalyRecord
import AnomalyWatch.Proofs.Files.Listing
import AnomalyWatch.Proofs.Files.Snapshot
import AnomalyWatch.Proofs.Files.Tree
import AnomalyWatch.Proofs.Json.Extension
import AnomalyWatch.Proofs.Json.Literal
import AnomalyWatch.Proofs.Json.Number
import AnomalyWatch.Proofs.Json.TextArray
import AnomalyWatch.Proofs.Metric.Decoding
import AnomalyWatch.Proofs.Metric.QueryUrl
import AnomalyWatch.Proofs.Pass.Abreast
import AnomalyWatch.Proofs.Pass.Accounts
import AnomalyWatch.Proofs.Pass.Atomicity
import AnomalyWatch.Proofs.Pass.Attendance
import AnomalyWatch.Proofs.Pass.Conduct
import AnomalyWatch.Proofs.Pass.Crew
import AnomalyWatch.Proofs.Pass.DimensionOrder
import AnomalyWatch.Proofs.Pass.Discipline
import AnomalyWatch.Proofs.Pass.ExactlyOnce
import AnomalyWatch.Proofs.Pass.Journaled
import AnomalyWatch.Proofs.Pass.Overlap
import AnomalyWatch.Proofs.Pass.Preparation
import AnomalyWatch.Proofs.Pass.Relief
import AnomalyWatch.Proofs.Pass.Repeats
import AnomalyWatch.Proofs.Pass.Separation
import AnomalyWatch.Proofs.Pass.Suppression
import AnomalyWatch.Proofs.Request.Planning
import AnomalyWatch.Proofs.Scheduler.Firing
import AnomalyWatch.Proofs.Scheduler.Round
import AnomalyWatch.Proofs.Scheduler.Standing
import AnomalyWatch.Proofs.Service.AnyScheduler
import AnomalyWatch.Proofs.Service.InStep
import AnomalyWatch.Proofs.Service.Registration
import AnomalyWatch.Proofs.Service.Serving
import AnomalyWatch.Proofs.Store.Appending
import AnomalyWatch.Proofs.Store.CommitLog
import AnomalyWatch.Proofs.Store.Durability
import AnomalyWatch.Proofs.Store.History
import AnomalyWatch.Proofs.Store.Journal
import AnomalyWatch.Proofs.Store.JournalFile
import AnomalyWatch.Proofs.Store.Medium
import AnomalyWatch.Proofs.Store.Refusal
import AnomalyWatch.Proofs.Store.Reopening
import AnomalyWatch.Proofs.Text.Blank
import AnomalyWatch.Proofs.Text.ByteOrder
import AnomalyWatch.Proofs.Text.CommaList
import AnomalyWatch.Proofs.Text.Digits
import AnomalyWatch.Proofs.Text.SignedWord
import AnomalyWatch.Proofs.Text.Words
import AnomalyWatch.Proofs.Time.Calendar
import AnomalyWatch.Proofs.Time.Forms
import AnomalyWatch.Proofs.Time.RoundTrip
import AnomalyWatch.Proofs.Time.Stamp
import AnomalyWatch.Proofs.Timing.Histogram
import AnomalyWatch.Proofs.Timing.Shared
import AnomalyWatch.Proofs.Url.Percent
import AnomalyWatch.Proofs.Window.Agreement
import AnomalyWatch.Proofs.Window.Exactness
import AnomalyWatch.Proofs.Window.Resolution
import AnomalyWatch.Rehearsal.Scheduler
import AnomalyWatch.Rehearsal.Watch
import AnomalyWatch.Rehearsal.World
import AnomalyWatch.Request
import AnomalyWatch.Roster
import AnomalyWatch.Scheduler.Calls
import AnomalyWatch.Scheduler.Clockwork
import AnomalyWatch.Scheduler.Round
import AnomalyWatch.Scheduler.Timetable
import AnomalyWatch.Series
import AnomalyWatch.Service.Basic
import AnomalyWatch.Service.Worker
import AnomalyWatch.Spec
import AnomalyWatch.Store.Basic
import AnomalyWatch.Store.Journal
import AnomalyWatch.Store.JournalFile
import AnomalyWatch.Store.Ledger
import AnomalyWatch.Text.Blank
import AnomalyWatch.Text.Digits
import AnomalyWatch.Text.Lowercase
import AnomalyWatch.Text.Octets
import AnomalyWatch.Text.Printable
import AnomalyWatch.Text.Quoted
import AnomalyWatch.Text.Uppercase
import AnomalyWatch.Time.Calendar
import AnomalyWatch.Time.Instant
import AnomalyWatch.Time.Reading
import AnomalyWatch.Time.Stamp
import AnomalyWatch.Time.Unit
import AnomalyWatch.Timing.Histogram
import AnomalyWatch.Timing.Shared
import AnomalyWatch.Url.Address
import AnomalyWatch.Url.Basic
import AnomalyWatch.Url.Host
import AnomalyWatch.Url.Parser
import AnomalyWatch.Url.Percent
import AnomalyWatch.Url.Punycode
import AnomalyWatch.Window
import AnomalyWatch.Yaml.Cursor
import AnomalyWatch.Yaml.Node
import AnomalyWatch.Yaml.Scalar
import AnomalyWatch.Yaml.Token
