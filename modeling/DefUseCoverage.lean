import DefUseCoverage.Text.Identifier
import DefUseCoverage.Text.Blank
import DefUseCoverage.Text.Utf8
import DefUseCoverage.Text.Quoted
import DefUseCoverage.Pair
import DefUseCoverage.Template.Basic
import DefUseCoverage.Template.Seeded
import DefUseCoverage.Template.Strategy
import DefUseCoverage.Digest.Md5
import DefUseCoverage.Random.ChaCha
import DefUseCoverage.Random.Uniform
import DefUseCoverage.Json.Value
import DefUseCoverage.Json.Parse
import DefUseCoverage.Json.Double
import DefUseCoverage.Decimal.Read
import DefUseCoverage.Decimal.Layout
import DefUseCoverage.Toml.Value
import DefUseCoverage.Toml.Parse
import DefUseCoverage.Workspace.Basic
import DefUseCoverage.Workspace.PathText
import DefUseCoverage.Metadata.Basic
import DefUseCoverage.Metadata.File
import DefUseCoverage.Metadata.Views
import DefUseCoverage.Config.Error
import DefUseCoverage.Config.Generation
import DefUseCoverage.Engine.Batch
import DefUseCoverage.Engine.Report
import DefUseCoverage.Json.Record
import DefUseCoverage.Coverage.Store
import DefUseCoverage.Coverage.Snapshot
import DefUseCoverage.Coverage.Snapshot.Json
import DefUseCoverage.Coverage.Snapshot.Binary
import DefUseCoverage.Coverage.Persist
import DefUseCoverage.Generation
import DefUseCoverage.Stub.Files
import DefUseCoverage.Config.Basic
import DefUseCoverage.Engine.Failure
import DefUseCoverage.Engine.Basic
import DefUseCoverage.Engine.InProcess
import DefUseCoverage.Engine.Script
import DefUseCoverage.Loop.Basic
import DefUseCoverage.Loop.Run
import DefUseCoverage.Loop.Prepare
import DefUseCoverage.Shell.Syntax
import DefUseCoverage.Shell.Parse
import DefUseCoverage.Shell.Printf
import DefUseCoverage.Shell.Quoting
import DefUseCoverage.Shell.Test
import DefUseCoverage.Shell.Pattern
import DefUseCoverage.Shell.Pathname
import DefUseCoverage.Shell.Regex
import DefUseCoverage.Shell.RegexRead
import DefUseCoverage.Shell.PerlRegex
import DefUseCoverage.Shell.Tool.Basic
import DefUseCoverage.Shell.Tool.Options
import DefUseCoverage.Shell.Tool.Names
import DefUseCoverage.Shell.Tool.Version
import DefUseCoverage.Shell.Tool.Text
import DefUseCoverage.Shell.Tool.Changes
import DefUseCoverage.Shell.Tool.Listing
import DefUseCoverage.Shell.Tool.NameStyles
import DefUseCoverage.Shell.Tool.Copy
import DefUseCoverage.Shell.Tool.Remove
import DefUseCoverage.Shell.Tool.Create
import DefUseCoverage.Shell.Tool.Seq
import DefUseCoverage.Shell.Tool.Grep
import DefUseCoverage.Shell.Tool.Expr
import DefUseCoverage.Shell.Tool.SedScript
import DefUseCoverage.Shell.Tool.Sed
import DefUseCoverage.Shell.Tool.Sort
import DefUseCoverage.Shell.Tool.Chars
import DefUseCoverage.Shell.Tool.Lines
import DefUseCoverage.Shell.Tool.Numbering
import DefUseCoverage.Shell.Tool.Portion
import DefUseCoverage.Shell.Tool.Columns
import DefUseCoverage.Shell.Tool.Repeats
import DefUseCoverage.Shell.Tool.Dump
import DefUseCoverage.Shell.Tools
import DefUseCoverage.Shell.Arith
import DefUseCoverage.Shell.Getopts
import DefUseCoverage.Shell.State
import DefUseCoverage.Shell.Run
import DefUseCoverage.Shell.Spawn
import DefUseCoverage.Engine.ReportReader
import DefUseCoverage.Engine.Command
import DefUseCoverage.Cli.Options
import DefUseCoverage.Cli.Run
import DefUseCoverage.Main
import DefUseCoverage.Proofs.StoreContents
import DefUseCoverage.Proofs.GenerationDedup
import DefUseCoverage.Proofs.CyclePhases
import DefUseCoverage.Proofs.LoopHistory
import DefUseCoverage.Proofs.StubDelivery
import DefUseCoverage.Proofs.SnapshotRestore
import DefUseCoverage.Proofs.StopReason
import DefUseCoverage.Proofs.MetadataGrowth
import DefUseCoverage.Proofs.CycleEffects
import DefUseCoverage.Proofs.LoopTermination
import DefUseCoverage.Proofs.BinaryCodec
import DefUseCoverage.Proofs.ResumeFixpoint
import DefUseCoverage.Proofs.JsonCodec
import DefUseCoverage.Proofs.SnapshotFile
import DefUseCoverage.Proofs.MetadataResolution
import DefUseCoverage.Proofs.RunAccounting
import DefUseCoverage.Proofs.RestoreMerge
import DefUseCoverage.Proofs.ParallelGeneration
import DefUseCoverage.Proofs.ExtractionScope
import DefUseCoverage.Proofs.StubFiles
import DefUseCoverage.Proofs.TemplateSyntax
import DefUseCoverage.Proofs.TypeGeneration
import DefUseCoverage.Proofs.ReportIntake
import DefUseCoverage.Proofs.CandidateExtraction
import DefUseCoverage.Proofs.SeededStubs
import DefUseCoverage.Proofs.ReportRoundTrip
import DefUseCoverage.Proofs.Identifiers
import DefUseCoverage.Proofs.AbandonedHarnesses
import DefUseCoverage.Proofs.StubBatch
