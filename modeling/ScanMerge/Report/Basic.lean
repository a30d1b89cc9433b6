import ScanMerge.Disk.Basic
import ScanMerge.Report.Data

/-!
Reports of a result, and writing one to a file.
-/

set_option autoImplicit false

namespace ScanMerge

inductive ReportFormat where
  | markdown
  | json
  deriving DecidableEq, Repr, Inhabited

def ReportFormat.name : ReportFormat → String
  | .markdown => "Markdown"
  | .json => "Json"

def ReportFormat.keyword : ReportFormat → String
  | .markdown => "markdown"
  | .json => "json"

/-- Why no report was written. -/
inductive ReportError where
  /-- A path in the result is not valid UTF-8. -/
  | pathNotText
  | notCreated (path : Path) (error : IoError)
  deriving DecidableEq, Repr

/-- What was to be done, or what is wrong. -/
def ReportError.message : ReportError → String
  | .pathNotText => "path contains invalid UTF-8 characters"
  | .notCreated path _ => s!"Failed to create report file {path.display}"

def ReportError.fullMessage (error : ReportError) : String :=
  match error with
  | .pathNotText => error.message
  | .notCreated _ cause => error.message ++ ": " ++ cause.message

namespace Report

def paths (result : AnalysisResult) : List Path :=
  result.findings.filterMap Finding.sourceFile ++ result.files.map FileRecord.path ++
    result.conflicts.map Conflict.path ++ result.warnings.filterMap Warning.path

/-- The JSON report of a result; none when a path is not valid UTF-8. -/
def json? (clock : Clock) (result : AnalysisResult) : Option String :=
  if (paths result).all (·.text?.isSome) then
    some (result.json (fun path => .string path.display) clock).pretty
  else
    none

def text (clock : Clock) (result : AnalysisResult) (format : ReportFormat)
    (includeMeasures : Bool) : Except ReportError String :=
  match format with
  | .markdown => .ok (markdown clock result includeMeasures)
  | .json => (json? clock result).elim (.error .pathNotText) .ok

def write (disk : Disk) (clock : Clock) (result : AnalysisResult) (format : ReportFormat)
    (includeMeasures : Bool) (path : Path) : Except ReportError Disk := do
  let content ← text clock result format includeMeasures
  (disk.write path (Text.Utf8.encodeString content)).mapError (.notCreated path)

end Report

end ScanMerge
