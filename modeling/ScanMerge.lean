import ScanMerge.Aggregation
import ScanMerge.CommandLine.Arguments
import ScanMerge.CommandLine.Places
import ScanMerge.CommandLine.Run
import ScanMerge.Decimal.Double
import ScanMerge.Decimal.Shortest
import ScanMerge.Digest
import ScanMerge.Disk.Basic
import ScanMerge.Disk.Changes
import ScanMerge.Disk.Folder
import ScanMerge.Facts
import ScanMerge.File.Classifier
import ScanMerge.File.HashIndex
import ScanMerge.File.Index
import ScanMerge.FileUrl
import ScanMerge.FileUrl.Host
import ScanMerge.Finding
import ScanMerge.Import.Basic
import ScanMerge.Import.BinaryReport
import ScanMerge.Import.Registry
import ScanMerge.Import.Sarif
import ScanMerge.Import.Telemetry
import ScanMerge.Instant
import ScanMerge.Json.Basic
import ScanMerge.Json.Decoder
import ScanMerge.Json.Fields
import ScanMerge.Json.Mismatch
import ScanMerge.Json.Parser
import ScanMerge.Json.Shape
import ScanMerge.KeyMap
import ScanMerge.Main
import ScanMerge.Manifest
import ScanMerge.Merge
import ScanMerge.MethodTable
import ScanMerge.ModuleTable
import ScanMerge.Path
import ScanMerge.Project
import ScanMerge.Proofs.Calls
import ScanMerge.Proofs.Registration
import ScanMerge.Report.Basic
import ScanMerge.Report.Data
import ScanMerge.Report.Document
import ScanMerge.Report.Markdown
import ScanMerge.Rest
import ScanMerge.Scan
import ScanMerge.Session
import ScanMerge.Settings
import ScanMerge.Settings.File
import ScanMerge.Settings.Toml
import ScanMerge.Sources
import ScanMerge.Statistics
import ScanMerge.TelemetryTable
import ScanMerge.Text.Blank
import ScanMerge.Text.CaseTable
import ScanMerge.Text.Encoding
import ScanMerge.Text.Lines
import ScanMerge.Text.Lowercase
import ScanMerge.Text.Quoted
import ScanMerge.Text.UnprintableTable
import ScanMerge.Text.Utf8
import ScanMerge.Toml.Basic
import ScanMerge.Toml.Lexeme
import ScanMerge.Toml.Node
import ScanMerge.Toml.Parser
import ScanMerge.Wildcard
import ScanMerge.Wire.Reader
import ScanMerge.Proofs.Lifecycle
import ScanMerge.Proofs.PublishedFindings
import ScanMerge.Proofs.RegisteredArtifacts
import ScanMerge.Proofs.Paths
import ScanMerge.Proofs.FileRecords
import ScanMerge.Proofs.Deliveries
import ScanMerge.Proofs.OrderIndependence
import ScanMerge.Proofs.ManifestPaths
import ScanMerge.Proofs.AcceptedRegistrations
import ScanMerge.Proofs.CollectedSets
import ScanMerge.Proofs.PublishedResult
import ScanMerge.Proofs.ProjectTelemetry
import ScanMerge.Proofs.ResultFigures
import ScanMerge.Proofs.FailingArtifacts
import ScanMerge.Proofs.RecordedDigests
import ScanMerge.Proofs.Repetitions
import ScanMerge.Proofs.Retries
import ScanMerge.Proofs.RecordedContents
import ScanMerge.Proofs.RaisedWarnings
import ScanMerge.Proofs.ModuleReferences
import ScanMerge.Proofs.ImportedFindings
import ScanMerge.Proofs.WellFormedResults
import ScanMerge.Proofs.Utf8
import ScanMerge.Proofs.WireEncoding
import ScanMerge.Proofs.WrittenReports
import ScanMerge.Proofs.Spellings
import ScanMerge.Proofs.PathQueries
import ScanMerge.Proofs.Outcomes
import ScanMerge.Proofs.WrittenFiles
import ScanMerge.Proofs.RunCourses
import ScanMerge.Proofs.RunEffects
import ScanMerge.Proofs.JsonStrings
import ScanMerge.Proofs.DecimalDigits
import ScanMerge.Proofs.JsonNumbers
import ScanMerge.Proofs.RoundedDoubles
import ScanMerge.Proofs.ShortestDecimals
import ScanMerge.Proofs.DoubleTexts
import ScanMerge.Proofs.JsonTexts
import ScanMerge.Proofs.InstantTexts
import ScanMerge.Proofs.JsonObjects
import ScanMerge.Proofs.ReportRecords
import ScanMerge.Proofs.ReadReports
import ScanMerge.Proofs.WireGrammar
import ScanMerge.Proofs.WireFrames
import ScanMerge.Proofs.RecordSchemas
import ScanMerge.Proofs.WireSchemas
import ScanMerge.Proofs.ReportSchemas
import ScanMerge.Proofs.ReportFrames
import ScanMerge.Proofs.ReencodedReports
import ScanMerge.Proofs.JsonRecords
import ScanMerge.Proofs.SarifLayouts
import ScanMerge.Proofs.WrittenLogs
import ScanMerge.Proofs.ResultFates
import ScanMerge.Proofs.SchemaVersions
import ScanMerge.Proofs.WildcardLanguage
import ScanMerge.Proofs.FileNamePatterns
import ScanMerge.Proofs.SavedTexts
import ScanMerge.Proofs.SigmaForms
import ScanMerge.Proofs.DocumentLeaves
import ScanMerge.Proofs.DigestHistories
import ScanMerge.Proofs.FoundSources
import ScanMerge.Proofs.ScannedModules
import ScanMerge.Proofs.StableSorting
import ScanMerge.Proofs.Tallies
import ScanMerge.Proofs.FindingStatistics
import ScanMerge.Proofs.IssueSections
import ScanMerge.Proofs.FactSummaries
import ScanMerge.Proofs.FileUrls
import ScanMerge.Proofs.MarkdownRows
import ScanMerge.Proofs.ReportTables
import ScanMerge.Proofs.FileAnchors
import ScanMerge.Proofs.ListedArtifacts
