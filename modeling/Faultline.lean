import Faultline.Bytes
import Faultline.Code.Binary
import Faultline.Code.Edit
import Faultline.Code.Equality
import Faultline.Code.Module
import Faultline.Code.Opcode
import Faultline.Code.OpcodeText
import Faultline.Code.StackDepth
import Faultline.Code.Symbols
import Faultline.CommandLine.Arguments
import Faultline.CommandLine.Help
import Faultline.CommandLine.Run
import Faultline.CommandLine.Spec
import Faultline.Digest.Blake3
import Faultline.Double.Basic
import Faultline.Double.Shortest
import Faultline.Machine.Basic
import Faultline.Machine.Error
import Faultline.Machine.Execute
import Faultline.Machine.Frame
import Faultline.Machine.Hook
import Faultline.Machine.Memory
import Faultline.Machine.Operator
import Faultline.Machine.Program
import Faultline.Machine.Step
import Faultline.Main
import Faultline.Project.Command
import Faultline.Project.Manifest
import Faultline.Project.Pass
import Faultline.Proofs.Bytes
import Faultline.Proofs.Code.Attachment
import Faultline.Proofs.Code.Bounds
import Faultline.Proofs.Code.Canonical
import Faultline.Proofs.Code.Composition
import Faultline.Proofs.Code.DepthPaths
import Faultline.Proofs.Code.DepthWork
import Faultline.Proofs.Code.Extent
import Faultline.Proofs.Code.Locations
import Faultline.Proofs.Code.Opcode
import Faultline.Proofs.Code.Reading
import Faultline.Proofs.Code.RoundTrip
import Faultline.Proofs.Code.StackDepth
import Faultline.Proofs.Code.Survey
import Faultline.Proofs.Code.Symbols
import Faultline.Proofs.Code.Truncation
import Faultline.Proofs.Code.Wrapping
import Faultline.Proofs.Double.Order
import Faultline.Proofs.Firsts
import Faultline.Proofs.Lists
import Faultline.Proofs.Machine.Agreement
import Faultline.Proofs.Machine.Balance
import Faultline.Proofs.Machine.Budgets
import Faultline.Proofs.Machine.Calls
import Faultline.Proofs.Machine.ControlFlow
import Faultline.Proofs.Machine.Dispatch
import Faultline.Proofs.Machine.Dispatched
import Faultline.Proofs.Machine.Instructions
import Faultline.Proofs.Machine.Inversion
import Faultline.Proofs.Machine.Linking
import Faultline.Proofs.Machine.Lockstep
import Faultline.Proofs.Machine.Matching
import Faultline.Proofs.Machine.Renaming
import Faultline.Proofs.Machine.Resolution
import Faultline.Proofs.Machine.StackSafety
import Faultline.Proofs.Machine.Traces
import Faultline.Proofs.Machine.Unlimited
import Faultline.Proofs.Project.Failures
import Faultline.Proofs.Project.Growth
import Faultline.Proofs.Project.Halfway
import Faultline.Proofs.Project.Idempotence
import Faultline.Proofs.Project.Moments
import Faultline.Proofs.Project.Numbering
import Faultline.Proofs.Project.Originals
import Faultline.Proofs.Project.Origins
import Faultline.Proofs.Project.Pass
import Faultline.Proofs.Project.Placement
import Faultline.Proofs.Project.Restarts
import Faultline.Proofs.Project.Resumption
import Faultline.Proofs.Project.SiteIds
import Faultline.Proofs.Project.Standing
import Faultline.Proofs.Project.Stops
import Faultline.Proofs.Project.Synced
import Faultline.Proofs.Project.Versions
import Faultline.Proofs.Recording.Aligned
import Faultline.Proofs.Recording.Alike
import Faultline.Proofs.Recording.Bookkeeping
import Faultline.Proofs.Recording.Histories
import Faultline.Proofs.Recording.HookCalls
import Faultline.Proofs.Recording.HookProtocol
import Faultline.Proofs.Recording.Instrumented
import Faultline.Proofs.Recording.Loads
import Faultline.Proofs.Recording.Observed
import Faultline.Proofs.Recording.Ownership
import Faultline.Proofs.Recording.Recorded
import Faultline.Proofs.Recording.Requests
import Faultline.Proofs.Recording.Separation
import Faultline.Proofs.Search.Alternates
import Faultline.Proofs.Search.Baselines
import Faultline.Proofs.Search.Clients
import Faultline.Proofs.Search.Confinement
import Faultline.Proofs.Search.Independence
import Faultline.Proofs.Search.Individuals
import Faultline.Proofs.Search.Isolation
import Faultline.Proofs.Search.Moments
import Faultline.Proofs.Search.Outcome
import Faultline.Proofs.Search.Overrides
import Faultline.Proofs.Search.Ranking
import Faultline.Proofs.Search.Recounts
import Faultline.Proofs.Search.Reference
import Faultline.Proofs.Search.Replays
import Faultline.Proofs.Search.Reports
import Faultline.Proofs.Search.Runs
import Faultline.Proofs.Search.Separation
import Faultline.Proofs.Search.Sessions
import Faultline.Proofs.Search.Showings
import Faultline.Proofs.Search.TestNames
import Faultline.Proofs.Search.Trials
import Faultline.Proofs.Search.Verdicts
import Faultline.Proofs.Site.Faults
import Faultline.Proofs.Site.Fidelity
import Faultline.Proofs.Site.Framing
import Faultline.Proofs.Site.Hooked
import Faultline.Proofs.Site.HookedFrames
import Faultline.Proofs.Site.HookedProgram
import Faultline.Proofs.Site.HookedSteps
import Faultline.Proofs.Site.Numbering
import Faultline.Proofs.Site.Observation
import Faultline.Proofs.Site.Records
import Faultline.Proofs.Site.Relocation
import Faultline.Proofs.Site.Repetition
import Faultline.Proofs.Site.SinglePass
import Faultline.Proofs.Site.StackNeutrality
import Faultline.Proofs.Site.Stages
import Faultline.Proofs.Site.Stamped
import Faultline.Proofs.Site.StoredTargets
import Faultline.Proofs.Storage.Access
import Faultline.Proofs.Storage.Alike
import Faultline.Proofs.Storage.Backups
import Faultline.Proofs.Storage.Changes
import Faultline.Proofs.Storage.Disk
import Faultline.Proofs.Storage.Failures
import Faultline.Proofs.Storage.Folders
import Faultline.Proofs.Storage.Journal
import Faultline.Proofs.Storage.LastBackups
import Faultline.Proofs.Storage.ModuleFiles
import Faultline.Proofs.Storage.Path
import Faultline.Proofs.Storage.Recovery
import Faultline.Proofs.Storage.Refusals
import Faultline.Proofs.Storage.Reopening
import Faultline.Proofs.Storage.Shelves
import Faultline.Proofs.Storage.SnapshotStore
import Faultline.Proofs.Table
import Faultline.Proofs.Text.Json
import Faultline.Proofs.Text.Utf8
import Faultline.Proofs.Value.Alike
import Faultline.Proofs.Value.Comparison
import Faultline.Proofs.Value.Copies
import Faultline.Proofs.Value.Copying
import Faultline.Proofs.Value.Evolution
import Faultline.Proofs.Value.Heap
import Faultline.Proofs.Value.Integers
import Faultline.Proofs.Value.Separation
import Faultline.Recording.Profile
import Faultline.Recording.Recorder
import Faultline.Search.Executor
import Faultline.Search.Localizer
import Faultline.Search.Ranking
import Faultline.Search.Report
import Faultline.Search.Session
import Faultline.Search.TestSuite
import Faultline.Search.Trials
import Faultline.Site.Classify
import Faultline.Site.Fingerprint
import Faultline.Site.HookSequence
import Faultline.Site.Instrument
import Faultline.Source
import Faultline.Storage.Disk
import Faultline.Storage.FileAccess
import Faultline.Storage.ModuleFiles
import Faultline.Storage.Path
import Faultline.Storage.SnapshotStore
import Faultline.Table
import Faultline.Text.CaseFold
import Faultline.Text.Category
import Faultline.Text.Json
import Faultline.Text.JsonReader
import Faultline.Text.Pattern.Basic
import Faultline.Text.Pattern.Bracket
import Faultline.Text.Pattern.Escape
import Faultline.Text.Pattern.Reader
import Faultline.Text.Printable
import Faultline.Text.Quoted
import Faultline.Text.Record
import Faultline.Text.Utf8
import Faultline.Text.WordChar
import Faultline.Text.Yaml
import Faultline.Text.YamlReader
import Faultline.Value.Basic
import Faultline.Value.Heap
