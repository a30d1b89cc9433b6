import ScanMerge.KeyMap
import ScanMerge.Path
import ScanMerge.Text.Lowercase

/-!
Findings: what a report says about a project, a file or a place in a file.
-/

set_option autoImplicit false

namespace ScanMerge

inductive Severity where
  | low
  | medium
  | high
  | critical
  deriving DecidableEq, Repr

namespace Severity

/-- Every severity, the gravest last. -/
def all : List Severity :=
  [.low, .medium, .high, .critical]

/-- The place of a severity, the gravest last. -/
def rank : Severity → Nat
  | .low => 0
  | .medium => 1
  | .high => 2
  | .critical => 3

def label : Severity → String
  | .low => "Low"
  | .medium => "Medium"
  | .high => "High"
  | .critical => "Critical"

/-- The word written to data files. -/
def keyword : Severity → String
  | .low => "low"
  | .medium => "medium"
  | .high => "high"
  | .critical => "critical"

def dot : Severity → String
  | .low => "🟢"
  | .medium => "🟡"
  | .high => "🟠"
  | .critical => "🔴"

/-- The severity that a producer's label stands for, in any case; an unknown label is low. -/
def ofLabel (text : String) : Severity :=
  match Text.lowercaseString text with
  | "critical" | "blocker" => .critical
  | "high" | "major" | "error" => .high
  | "medium" | "minor" | "warning" => .medium
  | _ => .low

end Severity

/-- A range of lines and columns in a file. Lines count from one. -/
structure TextRange where
  startLine : UInt32
  startColumn : UInt32
  endLine : UInt32
  endColumn : UInt32
  deriving DecidableEq, Repr

namespace TextRange

def line (number : UInt32) : TextRange :=
  ⟨number, 0, number, 0⟩

/-- The lines of a range, as one number or two. -/
def lineText (range : TextRange) : String :=
  if range.startLine < range.endLine then
    s!"{range.startLine.toNat}-{range.endLine.toNat}"
  else
    s!"{range.startLine.toNat}"

/-- The numbers of a range in the order in which they are compared. -/
def numbers (range : TextRange) : List UInt32 :=
  [range.startLine, range.startColumn, range.endLine, range.endColumn]

/-- The order of ranges: start line, start column, end line, end column. -/
def compare (left right : TextRange) : Ordering :=
  (Ord.compare left.startLine right.startLine).then <|
    (Ord.compare left.startColumn right.startColumn).then <|
      (Ord.compare left.endLine right.endLine).then <|
        Ord.compare left.endColumn right.endColumn

/-- The order of optional ranges; none comes first. -/
def compareOption : Option TextRange → Option TextRange → Ordering
  | none, none => .eq
  | none, some _ => .lt
  | some _, none => .gt
  | some left, some right => left.compare right

end TextRange

/-- The kind of compilation unit that a module is. -/
inductive ProjectType where
  | main
  | test
  | unknown
  deriving DecidableEq, Repr, Inhabited

def ProjectType.all : List ProjectType :=
  [.main, .test, .unknown]

/-- The word for a project type, in data files and for readers. -/
def ProjectType.keyword : ProjectType → String
  | .main => "main"
  | .test => "test"
  | .unknown => "unknown"

inductive FindingKind where
  | issue
  | measure
  | telemetry
  deriving DecidableEq, Repr

namespace FindingKind

def all : List FindingKind :=
  [.issue, .measure, .telemetry]

def label : FindingKind → String
  | .issue => "Issue"
  | .measure => "Measure"
  | .telemetry => "Telemetry"

/-- The word written to data files. -/
def keyword : FindingKind → String
  | .issue => "issue"
  | .measure => "measure"
  | .telemetry => "telemetry"

end FindingKind

/-- A single issue, measure or telemetry value. -/
structure Finding where
  kind : FindingKind
  sourceFile : Option Path
  /-- The rule, metric or telemetry key. -/
  key : String
  location : Option TextRange
  /-- The message of an issue, or the value of a measure or of telemetry. -/
  message : String
  severity : Option Severity
  moduleKey : String
  projectType : ProjectType
  deriving DecidableEq, Repr

namespace Finding

/-- An issue in a file. -/
def issue (moduleKey : String) (sourceFile : Path) (key : String) (location : Option TextRange)
    (message : String) (severity : Severity) : Finding :=
  { kind := .issue
    sourceFile := some sourceFile
    key, location, message, moduleKey
    severity := some severity
    projectType := .unknown }

def projectIssue (moduleKey key message : String) (severity : Severity) : Finding :=
  { kind := .issue
    sourceFile := none
    location := none
    key, message, moduleKey
    severity := some severity
    projectType := .unknown }

def measure (moduleKey : String) (sourceFile : Path) (key value : String) : Finding :=
  { kind := .measure
    sourceFile := some sourceFile
    location := none
    message := value
    severity := none
    key, moduleKey
    projectType := .unknown }

def telemetry (moduleKey key value : String) : Finding :=
  { kind := .telemetry
    sourceFile := none
    location := none
    message := value
    severity := none
    key, moduleKey
    projectType := .unknown }

/-- Whether two optional files are the same. -/
def sameFile : Option Path → Option Path → Bool
  | none, none => true
  | some left, some right => left.same right
  | _, _ => false

/-- What tells findings apart: file, key, location and module. -/
structure Identity where
  file : Option (List Path.Segment)
  key : String
  location : Option TextRange
  moduleKey : String
  deriving DecidableEq, Repr

/-- The identity of a finding. Findings of one identity count as one. -/
def identity (finding : Finding) : Identity :=
  { file := finding.sourceFile.map Path.segments
    key := finding.key
    location := finding.location
    moduleKey := finding.moduleKey }

/-- The findings differ at most in the spelling of their file. -/
def same (left right : Finding) : Bool :=
  sameFile left.sourceFile right.sourceFile &&
    ({ left with sourceFile := none } : Finding) = { right with sourceFile := none }

def fileLabel (finding : Finding) : String :=
  match finding.sourceFile with
  | some file => file.display
  | none => "(project)"

end Finding

/-- How many findings there are of each sort. -/
structure Summary where
  total : Nat
  issues : Nat
  measures : Nat
  telemetry : Nat
  critical : Nat
  high : Nat
  medium : Nat
  low : Nat
  byKey : KeyMap Nat
  deriving DecidableEq

namespace Summary

def countKind (kind : FindingKind) (findings : List Finding) : Nat :=
  findings.countP (·.kind = kind)

def countSeverity (severity : Severity) (findings : List Finding) : Nat :=
  findings.countP (·.severity = some severity)

def tally (texts : List String) : KeyMap Nat :=
  texts.foldl (fun counts text => counts.update text fun count => count.getD 0 + 1) .empty

def ofFindings (findings : List Finding) : Summary :=
  { total := findings.length
    issues := countKind .issue findings
    measures := countKind .measure findings
    telemetry := countKind .telemetry findings
    critical := countSeverity .critical findings
    high := countSeverity .high findings
    medium := countSeverity .medium findings
    low := countSeverity .low findings
    byKey := tally (findings.map (·.key)) }

end Summary

end ScanMerge
