import EffectSurvey.Analyzer
import EffectSurvey.Batch
import EffectSurvey.CommandLine.Options
import EffectSurvey.CommandLine.Parse
import EffectSurvey.Disk
import EffectSurvey.Failure
import EffectSurvey.Files.Fault
import EffectSurvey.Files.Folder
import EffectSurvey.Files.Path
import EffectSurvey.Files.Tree
import EffectSurvey.Finding
import EffectSurvey.Machine
import EffectSurvey.Main
import EffectSurvey.Metadata
import EffectSurvey.PackageList
import EffectSurvey.PackageList.Load
import EffectSurvey.Proofs.Batch.Accounting
import EffectSurvey.Proofs.Batch.Results
import EffectSurvey.Proofs.Batch.Splitting
import EffectSurvey.Proofs.Summaries.Balance
import EffectSurvey.Proofs.Summaries.Merge
import EffectSurvey.Proofs.Summaries.Registration
import EffectSurvey.Proofs.Table
import EffectSurvey.Proofs.Text.Blank
import EffectSurvey.Proofs.Text.Decimal
import EffectSurvey.Proofs.Text.Lines
import EffectSurvey.Proofs.Text.Pieces
import EffectSurvey.Proofs.Text.Utf8
import EffectSurvey.Proofs.Transcript.Grammar
import EffectSurvey.Proofs.Work
import EffectSurvey.Report.Delivery
import EffectSurvey.Report.Digest
import EffectSurvey.Report.Texts
import EffectSurvey.ScanError
import EffectSurvey.Settings.Basic
import EffectSurvey.Settings.File
import EffectSurvey.SortKey
import EffectSurvey.Source
import EffectSurvey.Summaries
import EffectSurvey.Table
import EffectSurvey.Text.Blank
import EffectSurvey.Text.Decimal
import EffectSurvey.Text.Invisible
import EffectSurvey.Text.Pieces
import EffectSurvey.Text.Quoted
import EffectSurvey.Text.Utf8
import EffectSurvey.Toml.Document
import EffectSurvey.Toml.Numbers
import EffectSurvey.Toml.Strings
import EffectSurvey.Toml.Value
import EffectSurvey.Transcript
import EffectSurvey.Work
import EffectSurvey.Workflow
import EffectSurvey.Proofs.Transcript.RoundTrip
import EffectSurvey.Proofs.Transcript.Truncation
import EffectSurvey.Proofs.Transcript.Viability
import EffectSurvey.Proofs.Summaries.History
import EffectSurvey.Proofs.Batch.Provenance
import EffectSurvey.Proofs.Report.Reading
import EffectSurvey.Proofs.Report.Ranking
import EffectSurvey.Proofs.Report.Agreement
import EffectSurvey.Proofs.Batch.Calls
import EffectSurvey.Proofs.Batch.Scheduling
import EffectSurvey.Proofs.Batch.Rearranging
import EffectSurvey.Proofs.Files.Tree
import EffectSurvey.Proofs.Files.Walk
import EffectSurvey.Proofs.Files.Path
import EffectSurvey.Proofs.Files.Operations
import EffectSurvey.Proofs.Report.Saving
import EffectSurvey.Proofs.PackageList
import EffectSurvey.Proofs.Report.Lossless
import EffectSurvey.Proofs.Workflow.Planning
import EffectSurvey.Proofs.Workflow.Endings
import EffectSurvey.Proofs.Report.Stability
import EffectSurvey.Proofs.Summaries.Histogram
import EffectSurvey.Proofs.Json.Reading
import EffectSurvey.Proofs.Report.Digest
import EffectSurvey.Proofs.Workflow.Changes
import EffectSurvey.Proofs.Transcript.Refusals
import EffectSurvey.Proofs.Transcript.Rows
import EffectSurvey.Proofs.Transcript.Stages
import EffectSurvey.Proofs.Transcript.LineEndings
import EffectSurvey.Proofs.PackageList.Cleaning
import EffectSurvey.Proofs.SortKey
import EffectSurvey.Proofs.PackageList.Lines
import EffectSurvey.Proofs.Source
import EffectSurvey.Proofs.Batch.Progress
