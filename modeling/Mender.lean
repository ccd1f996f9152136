import Mender.Text.CodeRange
import Mender.Text.CharClass
import Mender.Text.Search
import Mender.Text.Pattern
import Mender.Text.Utf8
import Mender.Text.Decimal
import Mender.Json.Basic
import Mender.Json.Reader
import Mender.Json.Printer
import Mender.Json.Slots
import Mender.Finding
import Mender.Finding.AnalyzerReport
import Mender.Finding.TestReport
import Mender.Text.Span
import Mender.Language
import Mender.Fix
import Mender.Reply.Code
import Mender.Failure
import Mender.History
import Mender.Prompt
import Mender.Finding.Record
import Mender.History.Record
import Mender.Language.Record
import Mender.Reply.Body
import Mender.Path
import Mender.Disk
import Mender.Toml.Basic
import Mender.Toml.Scalar
import Mender.Toml.Token
import Mender.Toml.Node
import Mender.Toml.Statement
import Mender.Toml.Document
import Mender.Toml.Printer
import Mender.ToolSpec
import Mender.Settings
import Mender.Settings.Record
import Mender.Filing
import Mender.Settings.File
import Mender.Worklist
import Mender.Worklist.File
import Mender.Target
import Mender.AuditTrail
import Mender.Site
import Mender.Collaborators
import Mender.Session
import Mender.Repair
import Mender.Batch
import Mender.Rehearsal
import Mender.Invocation
import Mender.Project
import Mender.Service
import Mender.Cli.Arguments
import Mender.Cli.Report
import Mender.Cli
import Mender.Shell.Signal
import Mender.Shell.Syntax
import Mender.Shell.Reader.Basic
import Mender.Shell.Reader
import Mender.Shell.ByteClass
import Mender.Shell.Glob
import Mender.Shell.Regex
import Mender.Shell.ByteText
import Mender.Shell.Stream
import Mender.Shell.State
import Mender.Shell.Fraction
import Mender.Shell.Printf
import Mender.Shell.Condition
import Mender.Shell.Arithmetic
import Mender.Shell.Utility.Quoting
import Mender.Shell.Utility.Basic
import Mender.Shell.Utility.Streams
import Mender.Shell.Regex.Reader
import Mender.Shell.Utility.Sorting
import Mender.Shell.Utility.Search
import Mender.Shell.Utility.Editor.Script
import Mender.Shell.Utility.Editor.Reader
import Mender.Shell.Utility.Editor
import Mender.Shell.Utility.Files
import Mender.Shell.Utility.Columns
import Mender.Shell.Utility.Expression
import Mender.Shell.Utility.Words
import Mender.Shell.Utility.Launching
import Mender.Shell.Utility.Listing
import Mender.Shell.Utility.Sequence
import Mender.Shell.Program
import Mender.Shell.Utility
import Mender.Shell.Fields
import Mender.Shell.Parameter
import Mender.Shell.Builtin
import Mender.Shell.Calling
import Mender.Shell.Process
import Mender.Shell.Redirection
import Mender.Shell.Signal.Order
import Mender.Shell.Startup
import Mender.Shell.Evaluation
import Mender.Shell.Machine
import Mender.Main
import Mender.Proofs.Text.Utf8
import Mender.Proofs.Text.ByteOrder
import Mender.Proofs.Text.Decimal
import Mender.Proofs.Text.Search
import Mender.Proofs.Text.Pattern
import Mender.Proofs.Text.Trim
import Mender.Proofs.Json.Spelling
import Mender.Proofs.Json.Pretty
import Mender.Proofs.Json.Records
import Mender.Proofs.Toml.Quoting
import Mender.Proofs.Toml.Lines
import Mender.Proofs.Toml.Drafts
import Mender.Proofs.Toml.Document
import Mender.Proofs.Toml.Form
import Mender.Proofs.Disk.Walk
import Mender.Proofs.Disk.Growth
import Mender.Proofs.Disk.Linkless
import Mender.Proofs.Disk.Rename
import Mender.Proofs.Path
import Mender.Proofs.Disk.Leading
import Mender.Proofs.Disk.Directories
import Mender.Proofs.Disk.Below
import Mender.Proofs.Disk.Replacing
import Mender.Proofs.Filing
import Mender.Proofs.Settings.Overlay
import Mender.Proofs.Settings.Documents
import Mender.Proofs.Settings.RoundTrip
import Mender.Proofs.Settings.Loading
import Mender.Proofs.AuditTrail
import Mender.Proofs.AuditTrail.Files
import Mender.Proofs.AuditTrail.Listing
import Mender.Proofs.Repair.Course
import Mender.Proofs.Repair.Outcome
import Mender.Proofs.Repair.Calls
import Mender.Proofs.Repair.Applied
import Mender.Proofs.Repair.FileTarget
import Mender.Proofs.Repair.DirectoryTarget
import Mender.Proofs.Repair.Content
import Mender.Proofs.Repair.Budget
import Mender.Proofs.Repair.Indifference
import Mender.Proofs.Repair.DryRun
import Mender.Proofs.Repair.Stall
import Mender.Proofs.Repair.Trail
import Mender.Proofs.Repair.Leftovers
import Mender.Proofs.Repair.Aborted
import Mender.Proofs.Reply.Fence
import Mender.Proofs.Reply.Echo
import Mender.Proofs.Reply.Body
import Mender.Proofs.Reply.RoundTrip
import Mender.Proofs.Finding.Size
import Mender.Proofs.Batch.Accounts
import Mender.Proofs.Project
import Mender.Proofs.Json.Reading
import Mender.Proofs.Json.Cut
import Mender.Proofs.Finding.Cut
import Mender.Proofs.Repair.OutputLimit
import Mender.Proofs.Cli.Exit
import Mender.Proofs.Cli.Agreement
import Mender.Proofs.Disk.Alike
import Mender.Proofs.Repair.Locality
import Mender.Proofs.Batch.Order
import Mender.Proofs.Repair.Operational
import Mender.Proofs.Cli.Refusal
import Mender.Proofs.Prompt.Fences
import Mender.Proofs.Finding.Markers
import Mender.Proofs.Finding.RoundTrip
import Mender.Proofs.Reply.Scan
import Mender.Proofs.Reply.Foreign
import Mender.Proofs.Repair.Blank
import Mender.Proofs.Json.Fields
import Mender.Proofs.Finding.Messages
import Mender.Proofs.Shell.Glob
import Mender.Proofs.Shell.Fields
import Mender.Proofs.Shell.Regex
import Mender.Proofs.Shell.Stream
import Mender.Proofs.Shell.Machine
import Mender.Proofs.ToolSpec
import Mender.Proofs.Target
import Mender.Proofs.Prompt.Template
import Mender.Proofs.Prompt.Layout
import Mender.Proofs.Worklist
import Mender.Proofs.Capture
import Mender.Proofs.Reply.Selection
import Mender.Proofs.Path.Naming
import Mender.Proofs.Disk.Planted
import Mender.Proofs.Disk.Naming
import Mender.Proofs.Settings.Atomic
