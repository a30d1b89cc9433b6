import ScanMerge.Decimal.Shortest
import ScanMerge.Instant
import ScanMerge.Report.Markdown
import ScanMerge.Statistics

/-!
The Markdown report of a result.
-/

set_option autoImplicit false

namespace ScanMerge

/-- When a result was made, and how many seconds that took. -/
structure Clock where
  date : Instant
  duration : Decimal.Double
  deriving DecidableEq, Repr

namespace Report

open Markdown (Alignment Block Bullet Column)

def version : String := "1.0.0"

def keyLimit : Nat := 10

def fileLimit : Nat := 5

def code (text : String) : String :=
  "`" ++ text ++ "`"

/-- An item of a list that begins with a name. -/
def labelled (name text : String) : Bullet :=
  ⟨false, "**" ++ name ++ ":** " ++ text⟩

def number (value : Nat) : String :=
  String.ofList (Nat.toDigits 10 value)

/-- An item of a list that is there only for a number other than zero. -/
def labelledIfAny (name : String) (value : Nat) : List Bullet :=
  if value = 0 then [] else [labelled name (number value)]

def metadata (clock : Clock) (figures : Figures) : List Block :=
  let modules := figures.modules
  [.heading 2 "Metadata",
    .bullets <|
      [labelled "Analysis Date" clock.date.shownText,
        labelled "Modules"
          (s!"{number modules.main} main, {number modules.test} test, " ++
            s!"{number modules.unknown} unknown"),
        labelled "Files Recorded"
          s!"{number figures.filesRecorded} ({number figures.filesExcluded} excluded)",
        labelled "Artifacts Imported"
          s!"{number figures.artifactsImported} of {number figures.artifactsRegistered}"] ++
      labelledIfAny "Artifacts Failed" figures.artifactsFailed ++
      labelledIfAny "Findings Filtered" figures.findingsFiltered ++
      labelledIfAny "Duplicates Dropped" figures.duplicatesDropped ++
      [labelled "Total Findings" (number figures.totalFindings),
        labelled "Aggregation Duration"
          (String.ofList (Decimal.oneDecimalText clock.duration) ++ "s")]]

/-- What links to the section of a file lead to. -/
def anchor (file : String) : String :=
  String.ofList <| Text.lowercase <| file.toList.map fun c =>
    if ['/', '\\', '.', ' ', ':'].contains c then '-' else c

def link (title target : String) : String :=
  s!"[{title}](#{target})"

def contents (result : AnalysisResult) (includeMeasures : Bool) : List Block :=
  let files := (Statistics.groupByFile result.findings).keys
  [.heading 2 "Table of Contents",
    .bullets <|
      [⟨false, link "Metadata" "metadata"⟩, ⟨false, link "Summary" "summary"⟩] ++
      (if result.warnings.isEmpty then [] else [⟨false, link "Warnings" "warnings"⟩]) ++
      [⟨false, link "Issues by File" "issues-by-file"⟩] ++
      (files.map fun file => ⟨true, link file (anchor file)⟩) ++
      (if includeMeasures then
        [⟨false, link "Measures" "measures"⟩, ⟨false, link "Telemetry" "telemetry"⟩]
      else [])]

def centred (title : String) : Column :=
  ⟨title, .centre⟩

def onLeft (title : String) : Column :=
  ⟨title, .left⟩

def onRight (title : String) : Column :=
  ⟨title, .right⟩

/-- A table of names and counts under a heading, if there are any. -/
def countTable (heading title count : String) (spell : String → String)
    (entries : List (String × Nat)) : List Block :=
  if entries.isEmpty then []
  else
    [.heading 3 heading,
      .table [onLeft title, centred count]
        (entries.map fun entry => [spell entry.1, number entry.2])]

def kindTable (summary : Summary) : Block :=
  .table [centred "Issues", centred "Measures", centred "Telemetry", centred "**Total**"]
    [[number summary.issues, number summary.measures, number summary.telemetry,
      s!"**{number summary.total}**"]]

def severityColumn (severity : Severity) : Column :=
  centred (severity.dot ++ " " ++ severity.label)

def severityTable (summary : Summary) : Block :=
  .table (Severity.all.reverse.map severityColumn)
    [[number summary.critical, number summary.high, number summary.medium, number summary.low]]

def summary (result : AnalysisResult) : List Block :=
  [.heading 2 "Summary",
    .heading 3 "Findings by Kind", kindTable result.summary,
    .heading 3 "Issue Severity Breakdown", severityTable result.summary] ++
  countTable "Top Keys" "Key" "Count" code (Statistics.topKeys result.summary keyLimit) ++
  countTable "Issues by Module" "Module" "Issues" id
    (Statistics.issuesByModule result.findings).entries ++
  countTable "Most Problematic Files" "File" "Issues" code
    (Statistics.mostProblematicFiles result.findings fileLimit)

/-- A text in which vertical lines are escaped. -/
def escapeBars (text : String) : String :=
  String.ofList (text.toList.flatMap fun c => if c = '|' then ['\\', '|'] else [c])

def warningRow (warning : Warning) : List String :=
  [warning.kind.label, warning.moduleKey.getD "-",
    (warning.path.map fun path => code path.display).getD "-", escapeBars warning.message]

/-- The section of warnings, if there are any. -/
def warnings (warnings : List Warning) : List Block :=
  if warnings.isEmpty then []
  else
    [.heading 2 "Warnings",
      .bullets ((Statistics.warningsByKind warnings).map fun entry =>
        labelled entry.1.label (number entry.2)),
      .table [onLeft "Kind", onLeft "Module", onLeft "Path", onLeft "Message"]
        (warnings.map warningRow)]

/-- The mark of an issue's severity. -/
def badge : Severity → String
  | .critical => "🔴 **CRITICAL**"
  | .high => "🟠 **HIGH**"
  | .medium => "🟡 **MEDIUM**"
  | .low => "🟢 **LOW**"

def linesText (location : Option TextRange) : String :=
  "**Lines:** " ++ (location.map TextRange.lineText).getD "file level"

/-- The blocks of an issue. An issue without severity is shown as low. -/
def issueBlocks (issue : Finding) : List Block :=
  [.heading 4 (badge (issue.severity.getD .low) ++ " " ++ code issue.key),
    .paragraph (linesText issue.location)] ++
  (if issue.message = "" then [] else [.paragraph issue.message]) ++
  [.rule]

def fileHeading (file : String) : Block :=
  .heading 3 (file ++ " \x7b#" ++ anchor file ++ "\x7d")

/-- The line below the heading of a file: the module of its first issue. -/
def fileLine (first : Finding) (count : Nat) : Block :=
  .paragraph
    s!"*Module: {first.moduleKey} ({first.projectType.keyword}) | Issues: {number count}*"

def fileBlocks (file : String) (issues : List Finding) : List Block :=
  match issues with
  | [] => []
  | first :: _ =>
    [fileHeading file, fileLine first issues.length] ++
      (Statistics.sortBySeverity issues).flatMap issueBlocks

def issues (findings : List Finding) : List Block :=
  let groups := (Statistics.groupByFile findings).entries
  .heading 2 "Issues by File" ::
    if groups.isEmpty then [.paragraph "No issues were found in the aggregated artifacts."]
    else groups.flatMap fun group => fileBlocks group.1 group.2

def measures (findings : List Finding) : List Block :=
  let measures := findings.filter (·.kind = .measure)
  .heading 2 "Measures" ::
    if measures.isEmpty then [.paragraph "No measures were imported."]
    else
      [.table [onLeft "File", onLeft "Metric", onRight "Value"]
        (measures.map fun finding => [code finding.fileLabel, finding.key, finding.message])]

def telemetry (table : KeyMap (List String)) : List Block :=
  .heading 2 "Telemetry" ::
    if table.entries.isEmpty then [.paragraph "No telemetry was collected."]
    else
      [.table [onLeft "Key", onLeft "Values"]
        (table.entries.map fun entry => [entry.1, ", ".intercalate entry.2])]

/-- The blocks of a report, the last line aside. Measures and telemetry are shown on demand. -/
def blocks (clock : Clock) (result : AnalysisResult) (includeMeasures : Bool) : List Block :=
  [.heading 1 "Scan Aggregation Report"] ++
    metadata clock result.figures ++
    contents result includeMeasures ++
    summary result ++
    warnings result.warnings ++
    issues result.findings ++
    (if includeMeasures then measures result.findings ++ telemetry result.telemetry else []) ++
    [.rule]

def lastLine : String :=
  s!"*Report generated by scan-aggregator v{version}*\n"

def markdown (clock : Clock) (result : AnalysisResult) (includeMeasures : Bool) : String :=
  Markdown.render (blocks clock result includeMeasures) ++ lastLine

end Report

end ScanMerge
