import ShopTraffic.Backfill
import ShopTraffic.Chance.Distinct
import ShopTraffic.Chance.KeyStream
import ShopTraffic.Chance.Source
import ShopTraffic.Chance.Table
import ShopTraffic.Chance.Uniform
import ShopTraffic.CommandLine.Help
import ShopTraffic.CommandLine.Options
import ShopTraffic.CommandLine.Run
import ShopTraffic.Crash
import ShopTraffic.Event
import ShopTraffic.Generator
import ShopTraffic.Identity
import ShopTraffic.Ingest.Address
import ShopTraffic.Ingest.Client
import ShopTraffic.Ingest.Host
import ShopTraffic.Json.Reader
import ShopTraffic.Json.Value
import ShopTraffic.Main
import ShopTraffic.Notice
import ShopTraffic.Population
import ShopTraffic.Proofs.Agreement
import ShopTraffic.Proofs.Answers
import ShopTraffic.Proofs.BackfillAnswers
import ShopTraffic.Proofs.Backlog
import ShopTraffic.Proofs.Building
import ShopTraffic.Proofs.Cadence
import ShopTraffic.Proofs.CarryOver
import ShopTraffic.Proofs.Conservation
import ShopTraffic.Proofs.Counters
import ShopTraffic.Proofs.Deadlines
import ShopTraffic.Proofs.DeliveryOrder
import ShopTraffic.Proofs.Dispatch
import ShopTraffic.Proofs.Draining
import ShopTraffic.Proofs.Histories
import ShopTraffic.Proofs.HoldUps
import ShopTraffic.Proofs.Isolation
import ShopTraffic.Proofs.JoinOrder
import ShopTraffic.Proofs.Limits
import ShopTraffic.Proofs.Log
import ShopTraffic.Proofs.PacedQueues
import ShopTraffic.Proofs.Passages
import ShopTraffic.Proofs.Queues
import ShopTraffic.Proofs.Residents
import ShopTraffic.Proofs.Runs
import ShopTraffic.Proofs.Sampling
import ShopTraffic.Proofs.Schedule
import ShopTraffic.Proofs.Tasks
import ShopTraffic.Proofs.Windows
import ShopTraffic.Settings.Basic
import ShopTraffic.Settings.File
import ShopTraffic.Settings.FileTree
import ShopTraffic.Settings.Inspect
import ShopTraffic.Shop.Page
import ShopTraffic.Shop.Session
import ShopTraffic.Stream.Backlog
import ShopTraffic.Stream.Books
import ShopTraffic.Stream.Build
import ShopTraffic.Stream.Delivery
import ShopTraffic.Stream.History
import ShopTraffic.Stream.Lag
import ShopTraffic.Stream.Pacing
import ShopTraffic.Stream.Report
import ShopTraffic.Stream.Streamer
import ShopTraffic.Stream.Task
import ShopTraffic.Stream.Window
import ShopTraffic.Text.Digits
import ShopTraffic.Text.Percent
import ShopTraffic.Text.Plain
import ShopTraffic.Text.Quoted
import ShopTraffic.Text.Ranges
import ShopTraffic.Text.Real
import ShopTraffic.Text.Unseen
import ShopTraffic.Time.Calendar
import ShopTraffic.Time.Instant
import ShopTraffic.Time.Span
import ShopTraffic.Time.SpanReader
import ShopTraffic.Time.Timer
import ShopTraffic.Toml.Document
import ShopTraffic.Toml.Lexical
import ShopTraffic.Toml.Reader
import ShopTraffic.Total
import ShopTraffic.User
import ShopTraffic.Workload.Planner
import ShopTraffic.Workload.Settings
import ShopTraffic.Proofs.WindowSequence
import ShopTraffic.Proofs.Accounts
import ShopTraffic.Proofs.Losses
import ShopTraffic.Proofs.Interleaving
import ShopTraffic.Proofs.Numbering
import ShopTraffic.Proofs.Acceptance
import ShopTraffic.Proofs.Itineraries
import ShopTraffic.Proofs.Shipments
import ShopTraffic.Proofs.FullDelivery
import ShopTraffic.Proofs.InFlight
import ShopTraffic.Proofs.Overruns
import ShopTraffic.Proofs.Loads
import ShopTraffic.Proofs.Lags
import ShopTraffic.Proofs.TimeSort
import ShopTraffic.Proofs.BacklogHistory
import ShopTraffic.Proofs.Calls
import ShopTraffic.Proofs.Builds
import ShopTraffic.Proofs.Truncation
import ShopTraffic.Proofs.Draws
import ShopTraffic.Proofs.Plans
import ShopTraffic.Proofs.SessionStarts
import ShopTraffic.Proofs.WindowPlans
import ShopTraffic.Proofs.PopulationHistory
import ShopTraffic.Proofs.Weights
import ShopTraffic.Proofs.Samples
import ShopTraffic.Proofs.Shards
import ShopTraffic.Proofs.ShardTasks
import ShopTraffic.Proofs.DigitTexts
import ShopTraffic.Proofs.SessionKeys
import ShopTraffic.Proofs.TimesOfDay
import ShopTraffic.Proofs.Dates
import ShopTraffic.Proofs.Records
import ShopTraffic.Proofs.TimeTexts
