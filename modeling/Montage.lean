import Montage.Address.Host
import Montage.Address.Name
import Montage.Address.NameTable
import Montage.Address.Percent
import Montage.Address.Punycode
import Montage.Address.Reference
import Montage.Address.Status
import Montage.Address.Url
import Montage.Binary64.Arithmetic
import Montage.Binary64.Basic
import Montage.Binary64.Decimal
import Montage.Binary64.Power
import Montage.Coding.Checksum
import Montage.Coding.Content
import Montage.Coding.Inflate
import Montage.Command
import Montage.CommandLine.Options
import Montage.CommandLine.Session
import Montage.Disk.Basic
import Montage.Disk.Path
import Montage.Export.Calls
import Montage.Export.Desk
import Montage.Export.Request
import Montage.Export.Run
import Montage.Failure
import Montage.Fault
import Montage.Field.Problem
import Montage.Field.Read
import Montage.Graph.Basic
import Montage.Graph.Compile
import Montage.Graph.Escape
import Montage.Graph.Placement
import Montage.Json.Basic
import Montage.Json.Reader
import Montage.Json.Writer
import Montage.Logging
import Montage.Main
import Montage.Metrics
import Montage.Payloads
import Montage.Progress.Phase
import Montage.Progress.Report
import Montage.Progress.Stream
import Montage.Progress.Tracker
import Montage.Proofs.Binary64.HalfUp
import Montage.Proofs.Binary64.Monotone
import Montage.Proofs.Binary64.Order
import Montage.Proofs.Binary64.Places
import Montage.Proofs.Binary64.Range
import Montage.Proofs.Binary64.Rounding
import Montage.Proofs.Command
import Montage.Proofs.Disk.Children
import Montage.Proofs.Disk.Confinement
import Montage.Proofs.Disk.Directories
import Montage.Proofs.Disk.Files
import Montage.Proofs.Disk.Folder
import Montage.Proofs.Disk.Names
import Montage.Proofs.Disk.Slots
import Montage.Proofs.Export.Closure
import Montage.Proofs.Export.Conduct
import Montage.Proofs.Export.Course
import Montage.Proofs.Export.Deeds
import Montage.Proofs.Export.Ends
import Montage.Proofs.Export.Exclusion
import Montage.Proofs.Export.Keeping
import Montage.Proofs.Export.Order
import Montage.Proofs.Export.Request
import Montage.Proofs.Export.Sequential
import Montage.Proofs.Export.Sights
import Montage.Proofs.Export.Solitude
import Montage.Proofs.Export.Stages
import Montage.Proofs.Export.Telling
import Montage.Proofs.Field.Checked
import Montage.Proofs.Field.Faults
import Montage.Proofs.Graph.Escape
import Montage.Proofs.Graph.Gate
import Montage.Proofs.Graph.Label
import Montage.Proofs.Graph.Meaning
import Montage.Proofs.Graph.Placement
import Montage.Proofs.Graph.Plan
import Montage.Proofs.Graph.Reading
import Montage.Proofs.Graph.Serialize
import Montage.Proofs.Graph.Signs
import Montage.Proofs.Graph.Streams
import Montage.Proofs.Graph.Totality
import Montage.Proofs.Graph.Unquoting
import Montage.Proofs.Graph.Wiring
import Montage.Proofs.Json.Equality
import Montage.Proofs.Json.RoundTrip
import Montage.Proofs.Progress.Bands
import Montage.Proofs.Progress.Forward
import Montage.Proofs.Progress.Merging
import Montage.Proofs.Routine.Asking
import Montage.Proofs.Routine.Contracts
import Montage.Proofs.Routine.Custody
import Montage.Proofs.Routine.Evolution
import Montage.Proofs.Routine.Fairness
import Montage.Proofs.Routine.Heeding
import Montage.Proofs.Routine.History
import Montage.Proofs.Routine.Interruption
import Montage.Proofs.Routine.Invariants
import Montage.Proofs.Routine.Ledger
import Montage.Proofs.Routine.Lives
import Montage.Proofs.Routine.Notice
import Montage.Proofs.Routine.Outcomes
import Montage.Proofs.Routine.Outline
import Montage.Proofs.Routine.Reach
import Montage.Proofs.Routine.Record
import Montage.Proofs.Routine.Regime
import Montage.Proofs.Routine.Replies
import Montage.Proofs.Routine.Scene
import Montage.Proofs.Routine.Tasks
import Montage.Proofs.Routine.Turns
import Montage.Proofs.Routine.Upkeep
import Montage.Proofs.Steps
import Montage.Proofs.Studio.Apart
import Montage.Proofs.Studio.Attempts
import Montage.Proofs.Studio.Callers
import Montage.Proofs.Studio.Causes
import Montage.Proofs.Studio.Concluding
import Montage.Proofs.Studio.Confinement
import Montage.Proofs.Studio.Contents
import Montage.Proofs.Studio.Exchanges
import Montage.Proofs.Studio.Executions
import Montage.Proofs.Studio.Files
import Montage.Proofs.Studio.Histories
import Montage.Proofs.Studio.HostFiles
import Montage.Proofs.Studio.Inputs
import Montage.Proofs.Studio.Loading
import Montage.Proofs.Studio.LocalRun
import Montage.Proofs.Studio.Maxima
import Montage.Proofs.Studio.Names
import Montage.Proofs.Studio.Premises
import Montage.Proofs.Studio.Programs
import Montage.Proofs.Studio.Reports
import Montage.Proofs.Studio.Retrying
import Montage.Proofs.Studio.Running
import Montage.Proofs.Studio.SingleFlight
import Montage.Proofs.Studio.Spares
import Montage.Proofs.Studio.Starting
import Montage.Proofs.Studio.Stopping
import Montage.Proofs.Studio.Workspace
import Montage.Proofs.Text.Decimal
import Montage.Proofs.Text.Encoding
import Montage.Proofs.Timeline.Bounds
import Montage.Proofs.Timeline.Faults
import Montage.Proofs.Timeline.Metadata
import Montage.Proofs.Timeline.Pixels
import Montage.Proofs.Timeline.WellFormed
import Montage.Proofs.Worker.Agreement
import Montage.Proofs.Worker.Complaints
import Montage.Proofs.Worker.Directory
import Montage.Proofs.Worker.Form
import Montage.Proofs.Worker.Leaving
import Montage.Proofs.Worker.Limit
import Montage.Proofs.Worker.Lodging
import Montage.Proofs.Worker.Refusal
import Montage.Proofs.Worker.Rendering
import Montage.Proofs.Worker.Restoration
import Montage.Proofs.Worker.Storing
import Montage.Proofs.Worker.Tidiness
import Montage.Proofs.Worker.Verdict
import Montage.Rehearsal.Backend
import Montage.Rehearsal.EngineScript
import Montage.Rehearsal.Host
import Montage.Rehearsal.OfficeScript
import Montage.Rehearsal.Performance
import Montage.Rehearsal.Script
import Montage.Rehearsal.WorkerScript
import Montage.Routine.Basic
import Montage.Routine.Notes
import Montage.Routine.System
import Montage.Settings
import Montage.Studio.Backend
import Montage.Studio.Classification
import Montage.Studio.Engine
import Montage.Studio.Http
import Montage.Studio.Interface
import Montage.Studio.LocalBackend
import Montage.Studio.RemoteBackend
import Montage.Studio.Tool
import Montage.Text.Blank
import Montage.Text.Case
import Montage.Text.Composed
import Montage.Text.Digit
import Montage.Text.Encoding
import Montage.Text.Half
import Montage.Text.Marks
import Montage.Text.Numeral
import Montage.Text.Printable
import Montage.Text.Quoted
import Montage.Text.Ranges
import Montage.Timeline.Basic
import Montage.Timeline.Decode
import Montage.Timeline.Metadata
import Montage.Timeline.Validation
import Montage.Worker.Description
import Montage.Worker.Form
import Montage.Worker.Page
import Montage.Worker.Rendering
