import ScanMerge.KeyMap

/-!
The settings of a run, with their defaults.
-/

set_option autoImplicit false

namespace ScanMerge

/-- What is written where, and how many modules are worked on at once. -/
structure GeneralSettings where
  output : String := "aggregate_report.md"
  verbose : Bool := false
  concurrency : Nat := 4
  deriving DecidableEq, Repr, Inhabited

/-- How source files are read. -/
structure EncodingSettings where
  /-- The encoding of files without a byte order mark; empty for UTF-8. -/
  default : String := ""
  deriving DecidableEq, Repr, Inhabited

/-- How generated files are told. -/
structure ClassifierSettings where
  /-- Patterns of the paths of generated files. -/
  generatedPatterns : List String :=
    ["**/*.Designer.vb", "**/*.g.vb", "**/*.g.i.vb", "**/*.generated.vb", "**/*.AssemblyInfo.vb",
      "**/TemporaryGeneratedFile_*", "**/*razor*.g.cs", "**/*cshtml*.g.cs"]
  /-- Texts that mark a generated file, in any case. -/
  generatedMarkers : List String := ["<auto-generated", "<autogenerated", "generated by"]
  /-- How many lines are searched for markers. -/
  headerLines : Nat := 20
  deriving DecidableEq, Repr, Inhabited

/-- How rules of external analyzers are named. -/
structure RuleSettings where
  /-- The repository of the analyzer's own rules. -/
  repository : String := "vbnet"
  /-- The keys of the rules of other analyzers. -/
  ruleMap : KeyMap String := .empty
  deriving DecidableEq, Inhabited

/-- How source files are found. -/
structure ScannerSettings where
  extensions : List String := ["vb", "cs"]
  /-- Names of files and directories that are passed over. -/
  excludes : List String := [".git", ".vs", "bin", "obj", "packages", "node_modules", ".sonarqube"]
  deriving DecidableEq, Repr, Inhabited

/-- What is reported. -/
structure ReportSettings where
  failOnWarnings : Bool := false
  includeMeasures : Bool := false
  deriving DecidableEq, Repr, Inhabited

structure Settings where
  general : GeneralSettings := {}
  encoding : EncodingSettings := {}
  classifier : ClassifierSettings := {}
  rules : RuleSettings := {}
  scanner : ScannerSettings := {}
  report : ReportSettings := {}
  deriving DecidableEq, Inhabited

end ScanMerge
