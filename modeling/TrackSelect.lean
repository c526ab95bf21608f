import TrackSelect.Binary64.Basic
import TrackSelect.Binary64.Reading
import TrackSelect.Binary64.Rounding
import TrackSelect.Binary64.Shortest
import TrackSelect.Caption.Cue
import TrackSelect.Caption.OcrDump
import TrackSelect.Caption.SubRip
import TrackSelect.Caption.Timestamp
import TrackSelect.Catalog
import TrackSelect.CommandLine
import TrackSelect.Disk
import TrackSelect.Disk.Removal
import TrackSelect.Encode
import TrackSelect.Errno
import TrackSelect.ExternalTools
import TrackSelect.Fault
import TrackSelect.ForeignAudio
import TrackSelect.Ingest
import TrackSelect.Json.Literal
import TrackSelect.Json.Number
import TrackSelect.Json.Pretty
import TrackSelect.Json.Value
import TrackSelect.Keyed
import TrackSelect.Machine
import TrackSelect.Machine.Shell.Arithmetic
import TrackSelect.Machine.Shell.Braces
import TrackSelect.Machine.Shell.Builtin.Basic
import TrackSelect.Machine.Shell.Builtin.Input
import TrackSelect.Machine.Shell.Builtin.Variables
import TrackSelect.Machine.Shell.Builtin.Work
import TrackSelect.Machine.Shell.Expansion
import TrackSelect.Machine.Shell.Grammar
import TrackSelect.Machine.Shell.Interpreter
import TrackSelect.Machine.Shell.Invocation
import TrackSelect.Machine.Shell.Jobs
import TrackSelect.Machine.Shell.Pattern
import TrackSelect.Machine.Shell.Redirecting
import TrackSelect.Machine.Shell.Script
import TrackSelect.Machine.Shell.Source
import TrackSelect.Machine.Shell.State
import TrackSelect.Machine.Shell.Word
import TrackSelect.Machine.System.Kernel
import TrackSelect.Machine.System.Lookup
import TrackSelect.Machine.System.Process
import TrackSelect.Machine.System.Schedule
import TrackSelect.Machine.System.Supervision
import TrackSelect.Machine.Utility.Basic
import TrackSelect.Machine.Utility.Characters
import TrackSelect.Machine.Utility.Escape
import TrackSelect.Machine.Utility.Files
import TrackSelect.Machine.Utility.Lines
import TrackSelect.Machine.Utility.Printf
import TrackSelect.Machine.Utility.Running
import TrackSelect.Machine.Utility.Stream
import TrackSelect.Machine.Utility.Table
import TrackSelect.Machine.Utility.Test
import TrackSelect.Main
import TrackSelect.Path
import TrackSelect.Powers
import TrackSelect.ProbeReport
import TrackSelect.Process.Collection
import TrackSelect.Process.Ending
import TrackSelect.Process.Runner
import TrackSelect.Process.Task
import TrackSelect.Proofs.Binary64.Literal
import TrackSelect.Proofs.Binary64.Rounding
import TrackSelect.Proofs.Catalog.FrameTags
import TrackSelect.Proofs.Catalog.Indices
import TrackSelect.Proofs.Catalog.Partition
import TrackSelect.Proofs.Catalog.Reading
import TrackSelect.Proofs.Disk.Writing
import TrackSelect.Proofs.Encode.Plan
import TrackSelect.Proofs.ForeignAudio.Counting
import TrackSelect.Proofs.ForeignAudio.Picking
import TrackSelect.Proofs.ForeignAudio.Quarter
import TrackSelect.Proofs.ForeignAudio.Reordering
import TrackSelect.Proofs.ForeignAudio.Scheduling
import TrackSelect.Proofs.ForeignAudio.Silence
import TrackSelect.Proofs.ForeignAudio.Sparse
import TrackSelect.Proofs.Ingest.Admission
import TrackSelect.Proofs.Ingest.CaptionPath
import TrackSelect.Proofs.Ingest.CaptionRun
import TrackSelect.Proofs.Ingest.Captioning
import TrackSelect.Proofs.Ingest.Course
import TrackSelect.Proofs.Ingest.Failing
import TrackSelect.Proofs.Ingest.Faulting
import TrackSelect.Proofs.Ingest.ForeignCaptions
import TrackSelect.Proofs.Ingest.Overwriting
import TrackSelect.Proofs.Ingest.Reordering
import TrackSelect.Proofs.Ingest.Serving
import TrackSelect.Proofs.Ingest.Succeeding
import TrackSelect.Proofs.Ingest.Writing
import TrackSelect.Proofs.Json.Numbers
import TrackSelect.Proofs.Keyed
import TrackSelect.Proofs.Machine.Pattern
import TrackSelect.Proofs.Machine.Pipes
import TrackSelect.Proofs.Machine.Supervision
import TrackSelect.Proofs.OcrDump.Blocks
import TrackSelect.Proofs.OcrDump.Cutting
import TrackSelect.Proofs.OcrDump.Decoration
import TrackSelect.Proofs.OcrDump.Faults
import TrackSelect.Proofs.OcrDump.Printing
import TrackSelect.Proofs.OcrDump.Shape
import TrackSelect.Proofs.OcrDump.Unanswered
import TrackSelect.Proofs.Path.Inside
import TrackSelect.Proofs.Process.Attempting
import TrackSelect.Proofs.Process.Collecting
import TrackSelect.Proofs.Process.Retrying
import TrackSelect.Proofs.Rule.Asking
import TrackSelect.Proofs.Rule.Emptying
import TrackSelect.Proofs.Rule.Hushing
import TrackSelect.Proofs.Rule.Leftovers
import TrackSelect.Proofs.Rule.Narrowing
import TrackSelect.Proofs.Rule.Obeying
import TrackSelect.Proofs.Rule.Pool
import TrackSelect.Proofs.Rule.PoolReordering
import TrackSelect.Proofs.Rule.Recorded
import TrackSelect.Proofs.Rule.Reordering
import TrackSelect.Proofs.Rule.Repeating
import TrackSelect.Proofs.Rule.Rounds
import TrackSelect.Proofs.Rule.Sparing
import TrackSelect.Proofs.Rule.Stopping
import TrackSelect.Proofs.Rule.Unbeaten
import TrackSelect.Proofs.Settings.Meaning
import TrackSelect.Proofs.Settings.Records
import TrackSelect.Proofs.Settings.Rewriting
import TrackSelect.Proofs.Settings.Validated
import TrackSelect.Proofs.SubRip.Clock
import TrackSelect.Proofs.SubRip.ClockForms
import TrackSelect.Proofs.SubRip.Counting
import TrackSelect.Proofs.SubRip.Document
import TrackSelect.Proofs.SubRip.Headers
import TrackSelect.Proofs.SubRip.Positions
import TrackSelect.Proofs.SubRip.Samples
import TrackSelect.Proofs.SubRip.Timings
import TrackSelect.Proofs.Text.Lines
import TrackSelect.Proofs.Text.Numeral
import TrackSelect.Proofs.Text.Scanning
import TrackSelect.Proofs.Text.Utf8
import TrackSelect.Proofs.Toml.Rereading
import TrackSelect.Proofs.Toolbox.Recording
import TrackSelect.Proofs.Toolbox.Reporting
import TrackSelect.Report
import TrackSelect.Rule.Apply
import TrackSelect.Rule.Basic
import TrackSelect.Rule.Extreme
import TrackSelect.Rule.RuleSets
import TrackSelect.Sample
import TrackSelect.Settings.Basic
import TrackSelect.SettingsFile.Basic
import TrackSelect.SettingsFile.Reading
import TrackSelect.SettingsFile.Record
import TrackSelect.SettingsFile.Validation
import TrackSelect.SettingsFile.Writing
import TrackSelect.Text.Blank
import TrackSelect.Text.Bytes
import TrackSelect.Text.DecimalDigit
import TrackSelect.Text.Hidden
import TrackSelect.Text.Lines
import TrackSelect.Text.Numeral
import TrackSelect.Text.Quoted
import TrackSelect.Text.Utf8
import TrackSelect.Toml.Datetime
import TrackSelect.Toml.Layout
import TrackSelect.Toml.Quoted
import TrackSelect.Toml.Reader
import TrackSelect.Toml.Scalar
import TrackSelect.Toml.Tables
import TrackSelect.Toml.Value
import TrackSelect.ToolArguments
import TrackSelect.Toolbox
import TrackSelect.Track
