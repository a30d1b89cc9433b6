import ScanMerge.Aggregation
import ScanMerge.CommandLine.Arguments
import ScanMerge.Scan
import ScanMerge.Settings.File

/-!
A run of the command line: from arguments and a disk to an exit status, the text on the two output
channels, and the disk afterwards.
-/

set_option autoImplicit false

namespace ScanMerge.CommandLine

structure Outcome where
  status : Nat
  output : String
  errors : String
  disk : Disk

structure Start where
  disk : Disk
  /-- The manifest that the environment names. -/
  environment : Option Word
  clock : Clock

def statusOk : Nat := 0

def statusFailed : Nat := 1

/-- The status of a run with warnings that count as a failure, and of unusable arguments. -/
def statusWarnings : Nat := 2

def errorText (message : String) : String :=
  s!"\n❌ Error: {message}\n"

def Outcome.failed (disk : Disk) (output errors : String) : Outcome :=
  ⟨statusFailed, output, errors, disk⟩

/-! ### Settings -/

/-- The settings of a run. A settings file that is named has to be usable; without one, an unusable
file in the working directory counts as none. -/
def loadSettings (disk : Disk) (arguments : Arguments) : Except SettingsError Settings :=
  match arguments.config with
  | some path => Settings.load disk path
  | none =>
    match Settings.loadDefault disk with
    | .ok (some settings) => .ok settings
    | _ => .ok {}

/-- Writes a settings file with the defaults, unless one is there. -/
def writeSettings (disk : Disk) : Outcome :=
  let name := Settings.defaultPath.display
  if disk.exists? Settings.defaultPath then
    .failed disk "" s!"⚠️  {name} already exists. Remove it first or edit it manually.\n"
  else
    match disk.write Settings.defaultPath (Text.Utf8.encodeString Settings.defaultText) with
    | .error error =>
      .failed disk "" s!"Error: Failed to write {name}\n\nCaused by:\n    {error.message}\n"
    | .ok changed =>
      { status := statusOk
        output :=
          s!"✅ Created {name} with default settings.\n" ++
            "   Edit it to customize encodings, generated-file patterns, rule mappings and more.\n"
        errors := ""
        disk := changed }

/-! ### Listing -/

def moduleListing (settings : ScannerSettings) (disk : Disk) (entry : ModuleEntry) : String :=
  let count := Report.number (entry.sourceFiles settings disk).length
  let kind := entry.projectType.keyword
  s!"   📦 {entry.key} ({kind}) at {entry.root.display}: {count} sources\n" ++
    String.join (entry.artifacts.map fun artifact =>
      s!"       📄 {artifact.kind.keyword} {artifact.path.display}\n")

/-- The listing of what a manifest would register. -/
def listing (settings : ScannerSettings) (disk : Disk) (manifest : Manifest) : String :=
  "\n🔍 Dry run: listing modules (no import)...\n\n" ++
    (if manifest.modules.isEmpty then "   The manifest lists no modules.\n" else "") ++
    String.join (manifest.modules.map (moduleListing settings disk)) ++
    "\n✅ Dry run complete. No artifacts were imported.\n"

/-! ### Aggregating -/

/-- The line about a warning of a run without a result. -/
def warningLine (warning : Warning) : String :=
  let place := (warning.path.map fun path => s!" ({path.display})").getD ""
  s!"   ⚠️  {warning.kind.label}: {warning.message}{place}\n"

def announcement (settings : Settings) (manifest : Manifest) : String :=
  let modules := Report.number manifest.modules.length
  let workers := Report.number settings.general.concurrency
  s!"🔍 Scanning {modules} modules ({workers} workers)...\n"

/-- The line with the numbers of issues of each severity. -/
def severityLine (summary : Summary) : String :=
  let part (severity : Severity) (count : Nat) : String :=
    severity.dot ++ " " ++ severity.label ++ ": " ++ Report.number count
  "   - " ++ " | ".intercalate
    [part .critical summary.critical, part .high summary.high, part .medium summary.medium,
      part .low summary.low] ++ "\n"

def summaryText (clock : Clock) (result : AnalysisResult) (format : ReportFormat) (path : Path) :
    String :=
  let figures := result.figures
  let summary := result.summary
  let number := Report.number
  let duration := String.ofList (Decimal.oneDecimalText clock.duration)
  "\n📊 Aggregation Summary:\n" ++
    s!"   Modules: {number figures.modules.main} main | {number figures.modules.test} test" ++
    s!" | {number figures.modules.unknown} unknown\n" ++
    s!"   Artifacts: {number figures.artifactsImported} imported" ++
    s!" | {number figures.artifactsFailed} failed\n" ++
    s!"   Findings: {number summary.total} ({number summary.issues} issues" ++
    s!", {number summary.measures} measures, {number summary.telemetry} telemetry)\n" ++
    severityLine summary ++
    (if result.isClean then "" else s!"   Warnings: {number result.warnings.length}\n") ++
    s!"   Duration: {duration}s\n" ++
    s!"\n✅ Aggregation complete! {format.name} report saved to: {path.display}\n"

/-- What a run says about a drain without a result. -/
def drainErrorText : DrainError → String
  | .refused error => errorText error.message
  | .noValidArtifacts error =>
    String.join (error.warnings.map warningLine) ++ errorText error.message

/-- Scans, merges and reports. -/
def aggregate (start : Start) (arguments : Arguments) (settings : Settings) (manifest : Manifest) :
    Outcome :=
  let announced := if arguments.quiet then "" else announcement settings manifest
  let aggregation := Aggregation.start settings (.standard settings)
  match aggregation.session.scanModules settings.scanner start.disk manifest.modules with
  | .error error => .failed start.disk announced (errorText error.message)
  | .ok (_, session) =>
    match ((aggregation.withSession session).finish start.disk).1 with
    | .error error => .failed start.disk announced (drainErrorText error)
    | .ok result =>
      let path := Path.ofString settings.general.output
      let format := arguments.reportFormat
      let measures := settings.report.includeMeasures
      match Report.write start.disk start.clock result format measures path with
      | .error error => .failed start.disk announced (errorText error.fullMessage)
      | .ok disk =>
        let output := announced ++ summaryText start.clock result format path
        if settings.report.failOnWarnings && !result.isClean then
          { status := statusWarnings
            output
            errors :=
              s!"\n⛔ {Report.number result.warnings.length} warnings reported. " ++
                "Failing (exit code 2).\n"
            disk }
        else
          ⟨statusOk, output, "", disk⟩

def runWithSettings (start : Start) (arguments : Arguments) (settings : Settings) : Outcome :=
  match arguments.manifest with
  | none => .failed start.disk "" (errorText Arguments.Objection.noManifest.message)
  | some path =>
    match Manifest.load start.disk path with
    | .error error => .failed start.disk "" (errorText error.fullMessage)
    | .ok manifest =>
      if arguments.dryRun then
        ⟨statusOk, listing settings.scanner start.disk manifest, "", start.disk⟩
      else
        aggregate start arguments settings manifest

def runWithArguments (start : Start) (arguments : Arguments) : Outcome :=
  match arguments.objection? start.disk with
  | some objection => .failed start.disk "" s!"Error: {objection.message}\n"
  | none =>
    if arguments.initConfig then writeSettings start.disk
    else
      match loadSettings start.disk arguments with
      | .error error => .failed start.disk "" (errorText error.fullMessage)
      | .ok settings => runWithSettings start arguments (arguments.merge settings)

def programName : String := "scan-aggregator"

def helpText : String :=
  s!"Usage: {programName} [OPTIONS] --manifest <FILE>\n"

def run (start : Start) (words : List Word) : Outcome :=
  match Arguments.ofWords start.environment words with
  | .ok arguments => runWithArguments start arguments
  | .error .helpRequested => ⟨statusOk, helpText, "", start.disk⟩
  | .error .versionRequested => ⟨statusOk, s!"{programName} {Report.version}\n", "", start.disk⟩
  | .error _ => ⟨statusWarnings, "", s!"error: invalid arguments\n\n{helpText}", start.disk⟩

end ScanMerge.CommandLine
