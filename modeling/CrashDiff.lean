import CrashDiff.Compiler.Child
import CrashDiff.Compiler.Outcome
import CrashDiff.Compiler.Settings
import CrashDiff.Compiler.Version
import CrashDiff.Failure
import CrashDiff.Files.Path
import CrashDiff.Files.System
import CrashDiff.Finding.Report
import CrashDiff.Finding.Verdict
import CrashDiff.Generation.Ratio
import CrashDiff.Generation.Settings
import CrashDiff.Generation.TypeList
import CrashDiff.Json.Basic
import CrashDiff.Json.Reader
import CrashDiff.Json.Shown
import CrashDiff.Json.Writer
import CrashDiff.Main
import CrashDiff.Number.Double
import CrashDiff.Number.Fixed
import CrashDiff.Number.Power
import CrashDiff.Number.Rounding
import CrashDiff.Number.Shortest
import CrashDiff.Options.Arguments
import CrashDiff.Options.Parser
import CrashDiff.Options.Shown
import CrashDiff.Options.Spec
import CrashDiff.Options.Usage
import CrashDiff.Program.Source
import CrashDiff.Program.SourceReader
import CrashDiff.Program.TestCase
import CrashDiff.Proofs.Compiler.Version
import CrashDiff.Proofs.Files.Changes
import CrashDiff.Proofs.Files.Lookalike
import CrashDiff.Proofs.Files.Path
import CrashDiff.Proofs.Files.Places
import CrashDiff.Proofs.Files.Ways
import CrashDiff.Proofs.Finding.Contract
import CrashDiff.Proofs.Finding.Identity
import CrashDiff.Proofs.Generation.Ratio
import CrashDiff.Proofs.Generation.Removal
import CrashDiff.Proofs.Generation.RoundTrip
import CrashDiff.Proofs.Generation.Spelling
import CrashDiff.Proofs.Generation.Subset
import CrashDiff.Proofs.Generation.Trace
import CrashDiff.Proofs.Generation.TypeList
import CrashDiff.Proofs.Generation.Unbiased
import CrashDiff.Proofs.Json.Layout
import CrashDiff.Proofs.Json.Strings
import CrashDiff.Proofs.Json.Values
import CrashDiff.Proofs.Number.Range
import CrashDiff.Proofs.Options.Choices
import CrashDiff.Proofs.Options.Settings
import CrashDiff.Proofs.Options.Words
import CrashDiff.Proofs.Program.Closed
import CrashDiff.Proofs.Program.Lossless
import CrashDiff.Proofs.Program.Number
import CrashDiff.Proofs.Program.Reader
import CrashDiff.Proofs.Random.Branches
import CrashDiff.Proofs.Random.Recorder
import CrashDiff.Proofs.Random.Separation
import CrashDiff.Proofs.Random.Stream
import CrashDiff.Proofs.Random.Words
import CrashDiff.Proofs.Run.Account
import CrashDiff.Proofs.Run.AnyOrder
import CrashDiff.Proofs.Run.AtOnce
import CrashDiff.Proofs.Run.Background
import CrashDiff.Proofs.Run.Bodies
import CrashDiff.Proofs.Run.Books
import CrashDiff.Proofs.Run.Bystander
import CrashDiff.Proofs.Run.Cause
import CrashDiff.Proofs.Run.Compilation
import CrashDiff.Proofs.Run.Course
import CrashDiff.Proofs.Run.CutShort
import CrashDiff.Proofs.Run.Ending
import CrashDiff.Proofs.Run.ExitStatus
import CrashDiff.Proofs.Run.Failing
import CrashDiff.Proofs.Run.Findings
import CrashDiff.Proofs.Run.Footprint
import CrashDiff.Proofs.Run.FullLog
import CrashDiff.Proofs.Run.Halting
import CrashDiff.Proofs.Run.InTurn
import CrashDiff.Proofs.Run.Iteration
import CrashDiff.Proofs.Run.Journal
import CrashDiff.Proofs.Run.Latecomers
import CrashDiff.Proofs.Run.Lines
import CrashDiff.Proofs.Run.Lockstep
import CrashDiff.Proofs.Run.Loop
import CrashDiff.Proofs.Run.Mirror
import CrashDiff.Proofs.Run.Narration
import CrashDiff.Proofs.Run.Output
import CrashDiff.Proofs.Run.Parallel
import CrashDiff.Proofs.Run.Points
import CrashDiff.Proofs.Run.Queries
import CrashDiff.Proofs.Run.Recording
import CrashDiff.Proofs.Run.Schedule
import CrashDiff.Proofs.Run.Sections
import CrashDiff.Proofs.Run.Spoken
import CrashDiff.Proofs.Run.Staging
import CrashDiff.Proofs.Run.Story
import CrashDiff.Proofs.Run.ThreadLog
import CrashDiff.Proofs.Run.Threads
import CrashDiff.Proofs.Run.Trail
import CrashDiff.Proofs.Text.Dedent
import CrashDiff.Proofs.Text.Lines
import CrashDiff.Proofs.Text.Marks
import CrashDiff.Proofs.Text.Numeral
import CrashDiff.Proofs.Text.OneLine
import CrashDiff.Proofs.Text.Reading
import CrashDiff.Random.Blake2b
import CrashDiff.Random.Draws
import CrashDiff.Random.Seed
import CrashDiff.Random.Twister
import CrashDiff.Run.EventLog
import CrashDiff.Run.Header
import CrashDiff.Run.Host
import CrashDiff.Run.Metadata
import CrashDiff.Run.Pool
import CrashDiff.Run.Progress
import CrashDiff.Run.Session
import CrashDiff.Run.Settings
import CrashDiff.Run.Shown
import CrashDiff.Run.Stats
import CrashDiff.Run.Summary
import CrashDiff.Run.Threads
import CrashDiff.Run.Transcript
import CrashDiff.Text.Blank
import CrashDiff.Text.Capital
import CrashDiff.Text.CaseTable
import CrashDiff.Text.Dedent
import CrashDiff.Text.Digit
import CrashDiff.Text.Lines
import CrashDiff.Text.Numeral
import CrashDiff.Text.Printable
import CrashDiff.Text.Quoted
