import PipelineProfile.Benchmark
import PipelineProfile.CommandLine
import PipelineProfile.CommandLine.Options
import PipelineProfile.Commit.Activity
import PipelineProfile.Commit.ControlFlow
import PipelineProfile.Commit.Instruction
import PipelineProfile.Commit.Record
import PipelineProfile.Config
import PipelineProfile.Directory
import PipelineProfile.Event
import PipelineProfile.FetchQueue
import PipelineProfile.FileTree
import PipelineProfile.Flush.Event
import PipelineProfile.Flush.Vocabulary
import PipelineProfile.Json
import PipelineProfile.Line
import PipelineProfile.Line.Facts
import PipelineProfile.Line.Tag
import PipelineProfile.Main
import PipelineProfile.Metric
import PipelineProfile.Number.Binary64
import PipelineProfile.Number.Decimal
import PipelineProfile.Number.Numeral
import PipelineProfile.Number.Register
import PipelineProfile.Path
import PipelineProfile.Predictor
import PipelineProfile.Proofs.Commit.Hotspots
import PipelineProfile.Proofs.Commit.Ranking
import PipelineProfile.Proofs.Commit.Reconstruction
import PipelineProfile.Proofs.Commit.Stream
import PipelineProfile.Proofs.Commit.Transfers
import PipelineProfile.Proofs.Commit.Widths
import PipelineProfile.Proofs.Directory.Paths
import PipelineProfile.Proofs.Directory.Scan
import PipelineProfile.Proofs.FetchQueue.Sampling
import PipelineProfile.Proofs.Flush.Accounting
import PipelineProfile.Proofs.Flush.Damage
import PipelineProfile.Proofs.Flush.Mispredict
import PipelineProfile.Proofs.Line.Context
import PipelineProfile.Proofs.Line.Deletion
import PipelineProfile.Proofs.Line.Facts
import PipelineProfile.Proofs.Line.FirstTag
import PipelineProfile.Proofs.Line.Grammar
import PipelineProfile.Proofs.Line.Pattern
import PipelineProfile.Proofs.Line.Returns
import PipelineProfile.Proofs.Line.Statistics
import PipelineProfile.Proofs.Line.TagSearch
import PipelineProfile.Proofs.Line.Words
import PipelineProfile.Proofs.Line.Written
import PipelineProfile.Proofs.Number.Reading
import PipelineProfile.Proofs.Number.Sign
import PipelineProfile.Proofs.Number.Spelling
import PipelineProfile.Proofs.Number.Sums
import PipelineProfile.Proofs.Predictor.Rebuilt
import PipelineProfile.Proofs.Report.Blocks
import PipelineProfile.Proofs.Report.Breakdowns
import PipelineProfile.Proofs.Report.Filling
import PipelineProfile.Proofs.Report.Pieces
import PipelineProfile.Proofs.Report.Sections
import PipelineProfile.Proofs.Stall.AfterFlush
import PipelineProfile.Proofs.Stall.CanonicalLabels
import PipelineProfile.Proofs.Stall.Conservation
import PipelineProfile.Proofs.Stall.Divided
import PipelineProfile.Proofs.Stall.Evidence
import PipelineProfile.Proofs.Stall.HeadMirror
import PipelineProfile.Proofs.Stall.Labels
import PipelineProfile.Proofs.Stall.MissPort
import PipelineProfile.Proofs.Stall.OtherLabels
import PipelineProfile.Proofs.Stall.Pairs
import PipelineProfile.Proofs.Stall.Priority
import PipelineProfile.Proofs.Stall.Replay
import PipelineProfile.Proofs.Summary.Announcements
import PipelineProfile.Proofs.Summary.Decoding
import PipelineProfile.Proofs.Summary.Settings
import PipelineProfile.Proofs.Summary.Totals
import PipelineProfile.Proofs.Summary.Warnings
import PipelineProfile.Proofs.Tally.Counting
import PipelineProfile.Proofs.Tally.Entries
import PipelineProfile.Proofs.Tally.Pairs
import PipelineProfile.Proofs.Text.Braces
import PipelineProfile.Proofs.Text.Encoding
import PipelineProfile.Proofs.Text.Lines
import PipelineProfile.Proofs.Text.Replacement
import PipelineProfile.Proofs.Text.Search
import PipelineProfile.Proofs.Trace.Concatenation
import PipelineProfile.Proofs.Trace.Edits
import PipelineProfile.Proofs.Trace.Framing
import PipelineProfile.Proofs.Trace.LineKind
import PipelineProfile.Proofs.Trace.Reordering
import PipelineProfile.Proofs.Trace.Sources
import PipelineProfile.Proofs.Trace.StallRuns
import PipelineProfile.Report
import PipelineProfile.Report.Section
import PipelineProfile.Report.Template
import PipelineProfile.Stall.Category
import PipelineProfile.Stall.DecodeBlocked
import PipelineProfile.Stall.Other
import PipelineProfile.Stall.Probe
import PipelineProfile.Stall.RobHead
import PipelineProfile.Stall.Sample
import PipelineProfile.Summary
import PipelineProfile.Summary.Flushes
import PipelineProfile.Summary.Json
import PipelineProfile.Summary.Stalls
import PipelineProfile.Summary.Totals
import PipelineProfile.Summary.Warning
import PipelineProfile.Tally
import PipelineProfile.Text.Blank
import PipelineProfile.Text.DecimalDigit
import PipelineProfile.Text.Lines
import PipelineProfile.Text.Search
import PipelineProfile.Text.Utf8
import PipelineProfile.Trace
