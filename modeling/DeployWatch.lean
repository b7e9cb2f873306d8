import DeployWatch.Admission
import DeployWatch.Application.Annotations
import DeployWatch.Application.Basic
import DeployWatch.Application.Wire
import DeployWatch.Audit
import DeployWatch.ControlPlane.Client
import DeployWatch.ControlPlane.Error
import DeployWatch.Daemon
import DeployWatch.GitOps.Command
import DeployWatch.GitOps.Error
import DeployWatch.GitOps.FileTree
import DeployWatch.GitOps.Override
import DeployWatch.GitOps.Path
import DeployWatch.GitOps.Repository
import DeployWatch.GitOps.Update
import DeployWatch.Hash.Sha256
import DeployWatch.Http.Basic
import DeployWatch.Json.Basic
import DeployWatch.Json.Decode
import DeployWatch.Json.Doc
import DeployWatch.Lock.Key
import DeployWatch.Lock.Section
import DeployWatch.Metrics
import DeployWatch.Notification.Fanout
import DeployWatch.Notification.Webhook
import DeployWatch.Number.Binary64
import DeployWatch.Number.Clamped
import DeployWatch.Number.Digits
import DeployWatch.Program
import DeployWatch.Program.Alone
import DeployWatch.Program.Together
import DeployWatch.Proofs.Application.Grammar
import DeployWatch.Proofs.Application.ManagedImages
import DeployWatch.Proofs.Application.Snapshot
import DeployWatch.Proofs.ControlPlane.Kinds
import DeployWatch.Proofs.ControlPlane.Segment
import DeployWatch.Proofs.GitOps.AllOrNothing
import DeployWatch.Proofs.GitOps.Attempts
import DeployWatch.Proofs.GitOps.BareHost
import DeployWatch.Proofs.GitOps.Commit
import DeployWatch.Proofs.GitOps.Confinement
import DeployWatch.Proofs.GitOps.Edit
import DeployWatch.Proofs.GitOps.FurtherKeys
import DeployWatch.Proofs.GitOps.Merge
import DeployWatch.Proofs.GitOps.MergedList
import DeployWatch.Proofs.GitOps.OverrideText
import DeployWatch.Proofs.GitOps.Path
import DeployWatch.Proofs.GitOps.Repeated
import DeployWatch.Proofs.GitOps.Requests
import DeployWatch.Proofs.GitOps.Resolution
import DeployWatch.Proofs.GitOps.ShellWords
import DeployWatch.Proofs.GitOps.Tags
import DeployWatch.Proofs.GitOps.Together
import DeployWatch.Proofs.GitOps.Tree
import DeployWatch.Proofs.GitOps.WrittenFile
import DeployWatch.Proofs.Hash.Sha256
import DeployWatch.Proofs.Json.Format
import DeployWatch.Proofs.Json.Further
import DeployWatch.Proofs.Json.ReadBack
import DeployWatch.Proofs.Json.Records
import DeployWatch.Proofs.Lock.InTurn
import DeployWatch.Proofs.Lock.Sections
import DeployWatch.Proofs.Lock.Stages
import DeployWatch.Proofs.Lock.Timetable
import DeployWatch.Proofs.Metrics.Exact
import DeployWatch.Proofs.Metrics.Measured
import DeployWatch.Proofs.Notification.Deliveries
import DeployWatch.Proofs.Notification.Fanout
import DeployWatch.Proofs.Program.Alike
import DeployWatch.Proofs.Program.Ending
import DeployWatch.Proofs.Program.Ensures
import DeployWatch.Proofs.Program.Floor
import DeployWatch.Proofs.Program.History
import DeployWatch.Proofs.Program.Interleaving
import DeployWatch.Proofs.Program.Locks
import DeployWatch.Proofs.Program.Paths
import DeployWatch.Proofs.Program.Serial
import DeployWatch.Proofs.Program.Turns
import DeployWatch.Proofs.Program.Unfolding
import DeployWatch.Proofs.Rollout.Announced
import DeployWatch.Proofs.Rollout.Budget
import DeployWatch.Proofs.Rollout.Classified
import DeployWatch.Proofs.Rollout.Delays
import DeployWatch.Proofs.Rollout.Ends
import DeployWatch.Proofs.Rollout.Fingerprint
import DeployWatch.Proofs.Rollout.LastPoll
import DeployWatch.Proofs.Rollout.Lifecycle
import DeployWatch.Proofs.Rollout.Polls
import DeployWatch.Proofs.Rollout.Reports
import DeployWatch.Proofs.Rollout.Writes
import DeployWatch.Proofs.SortedMap
import DeployWatch.Proofs.Store.Admission
import DeployWatch.Proofs.Store.Clock
import DeployWatch.Proofs.Store.Effects
import DeployWatch.Proofs.Store.Finality
import DeployWatch.Proofs.Store.Jobs
import DeployWatch.Proofs.Store.Listing
import DeployWatch.Proofs.Store.Reasons
import DeployWatch.Proofs.Store.Runs
import DeployWatch.Proofs.Store.Simulated
import DeployWatch.Proofs.Store.Sweep
import DeployWatch.Proofs.Task.Wire
import DeployWatch.Proofs.Text.ByteOrder
import DeployWatch.Proofs.Text.Search
import DeployWatch.Proofs.Text.Split
import DeployWatch.Proofs.Text.Trim
import DeployWatch.Proofs.Text.Utf8
import DeployWatch.Proofs.Time.Order
import DeployWatch.Proofs.Url.Percent
import DeployWatch.Proofs.Yaml.Shown
import DeployWatch.Proofs.Yaml.Spelled
import DeployWatch.Proofs.Yaml.Stands
import DeployWatch.Proofs.Yaml.Walk
import DeployWatch.Rollout.Outcome
import DeployWatch.Rollout.Schedule
import DeployWatch.Rollout.Verdict
import DeployWatch.Rollout.Watch
import DeployWatch.Server.Address
import DeployWatch.Server.Routes
import DeployWatch.Server.Target
import DeployWatch.Settings.Basic
import DeployWatch.Settings.Environment
import DeployWatch.Settings.Value
import DeployWatch.Simulation.Event
import DeployWatch.Simulation.Scenario
import DeployWatch.Simulation.World
import DeployWatch.SortedMap
import DeployWatch.Store.Query
import DeployWatch.Store.Tasks
import DeployWatch.Task.Basic
import DeployWatch.Task.Wire
import DeployWatch.Text.Blank
import DeployWatch.Text.Printable
import DeployWatch.Text.Quoted
import DeployWatch.Text.Ranges
import DeployWatch.Text.Search
import DeployWatch.Text.Split
import DeployWatch.Text.Utf8
import DeployWatch.Text.WordChar
import DeployWatch.Time.Calendar
import DeployWatch.Time.Instant
import DeployWatch.Time.Rfc3339
import DeployWatch.Url.Basic
import DeployWatch.Url.Parse
import DeployWatch.Url.Percent
import DeployWatch.Uuid
import DeployWatch.Yaml.Cursor
import DeployWatch.Yaml.Document
import DeployWatch.Yaml.Printer
import DeployWatch.Yaml.Scalar
import DeployWatch.Yaml.ScalarText
import DeployWatch.Yaml.Scan
import DeployWatch.Yaml.Token
import DeployWatch.Yaml.Value
