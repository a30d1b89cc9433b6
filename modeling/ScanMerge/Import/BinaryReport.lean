import ScanMerge.Import.Basic

/-!
The binary report of the analyzer: a header and then one record for each file, each of them a
message after its length.
-/

set_option autoImplicit false

namespace ScanMerge.BinaryReport

open Wire (Key Reading FieldReader)

def magic : String := "dotnet-analysis"

def supportedVersion : UInt32 := 1

structure Header where
  magic : String := ""
  version : UInt32 := 0
  producer : String := ""
  deriving DecidableEq, Repr

/-- A range of lines and columns. -/
structure Range where
  startLine : UInt32 := 0
  startColumn : UInt32 := 0
  endLine : UInt32 := 0
  endColumn : UInt32 := 0
  deriving DecidableEq, Repr

structure Issue where
  ruleId : String := ""
  message : String := ""
  range : Option Range := none
  severity : String := ""
  deriving DecidableEq, Repr

structure Metrics where
  classes : Int32 := 0
  statements : Int32 := 0
  functions : Int32 := 0
  complexity : Int32 := 0
  cognitiveComplexity : Int32 := 0
  ncloc : Int32 := 0
  commentLines : Int32 := 0
  deriving DecidableEq

structure File where
  path : String := ""
  issues : List Issue := []
  metrics : Option Metrics := none
  isGenerated : Bool := false
  deriving DecidableEq

/-! ### Reading -/

/-- A 32-bit number: the low bits of a varint. -/
def readWord {α : Type} (put : UInt32 → α) (field : String) (key : Key) (input : List UInt8) :
    Reading α input :=
  ((Wire.readNumber key.wireType input).inField field).store fun value => put (UInt32.ofNat value)

/-- A 32-bit number with a sign: the low bits of a varint. -/
def readSigned {α : Type} (put : Int32 → α) (field : String) (key : Key) (input : List UInt8) :
    Reading α input :=
  ((Wire.readNumber key.wireType input).inField field).store fun value =>
    put (UInt32.ofNat value).toInt32

def readText {α : Type} (put : String → α) (field : String) (key : Key) (input : List UInt8) :
    Reading α input :=
  ((Wire.readString key.wireType input).inField field).store put

def Header.field : FieldReader Header := fun header key input =>
  match key.tag with
  | 1 => readText ({ header with magic := · }) "ReportHeader.magic" key input
  | 2 => readWord ({ header with version := · }) "ReportHeader.version" key input
  | 3 => readText ({ header with producer := · }) "ReportHeader.producer" key input
  | _ => (Wire.skipField (Wire.nestingLimit - 1) key input).store fun () => header

def Range.field : FieldReader Range := fun range key input =>
  match key.tag with
  | 1 => readWord ({ range with startLine := · }) "TextRangeRecord.start_line" key input
  | 2 => readWord ({ range with startColumn := · }) "TextRangeRecord.start_column" key input
  | 3 => readWord ({ range with endLine := · }) "TextRangeRecord.end_line" key input
  | 4 => readWord ({ range with endColumn := · }) "TextRangeRecord.end_column" key input
  | _ => (Wire.skipField (Wire.nestingLimit - 3) key input).store fun () => range

def Issue.field : FieldReader Issue := fun issue key input =>
  match key.tag with
  | 1 => readText ({ issue with ruleId := · }) "IssueRecord.rule_id" key input
  | 2 => readText ({ issue with message := · }) "IssueRecord.message" key input
  | 3 =>
    ((Wire.readSubmessage Range.field (issue.range.getD {}) key.wireType input).inField
      "IssueRecord.text_range").store ({ issue with range := some · })
  | 4 => readText ({ issue with severity := · }) "IssueRecord.severity" key input
  | _ => (Wire.skipField (Wire.nestingLimit - 2) key input).store fun () => issue

def Metrics.field : FieldReader Metrics := fun metrics key input =>
  match key.tag with
  | 1 => readSigned ({ metrics with classes := · }) "MetricsRecord.classes" key input
  | 2 => readSigned ({ metrics with statements := · }) "MetricsRecord.statements" key input
  | 3 => readSigned ({ metrics with functions := · }) "MetricsRecord.functions" key input
  | 4 => readSigned ({ metrics with complexity := · }) "MetricsRecord.complexity" key input
  | 5 =>
    readSigned ({ metrics with cognitiveComplexity := · }) "MetricsRecord.cognitive_complexity" key
      input
  | 6 => readSigned ({ metrics with ncloc := · }) "MetricsRecord.ncloc" key input
  | 7 => readSigned ({ metrics with commentLines := · }) "MetricsRecord.comment_lines" key input
  | _ => (Wire.skipField (Wire.nestingLimit - 2) key input).store fun () => metrics

def File.field : FieldReader File := fun file key input =>
  match key.tag with
  | 1 => readText ({ file with path := · }) "FileReport.file_path" key input
  | 2 =>
    ((Wire.readSubmessage Issue.field {} key.wireType input).inField "FileReport.issues").store
      fun issue => { file with issues := file.issues ++ [issue] }
  | 3 =>
    ((Wire.readSubmessage Metrics.field (file.metrics.getD {}) key.wireType input).inField
      "FileReport.metrics").store ({ file with metrics := some · })
  | 4 =>
    ((Wire.readNumber key.wireType input).inField "FileReport.is_generated").store
      fun value => { file with isGenerated := value ≠ 0 }
  | _ => (Wire.skipField (Wire.nestingLimit - 1) key input).store fun () => file

def readFiles (input : List UInt8) : Except Wire.Error (List File) :=
  if input = [] then .ok []
  else
    match Wire.readMessage File.field {} input with
    | .error error => .error error
    | .ok (file, ⟨rest, _⟩) =>
      match readFiles rest with
      | .error error => .error error
      | .ok files => .ok (file :: files)
termination_by input.length

def read (input : List UInt8) : Except Defect (List File) :=
  if input = [] then .error .missingHeader
  else
    match Wire.readMessage Header.field {} input with
    | .error error => .error (.wire error)
    | .ok (header, ⟨rest, _⟩) =>
      if header.magic ≠ magic then .error (.unexpectedMagic header.magic)
      else if header.version ≠ supportedVersion then
        .error (.unsupportedVersion (toString header.version.toNat))
      else
        match readFiles rest with
        | .error error => .error (.wire error)
        | .ok files => .ok files

/-! ### Findings -/

/-- The place of an issue; a range that starts at line zero is none. -/
def Range.location? (range : Range) : Option TextRange :=
  if range.startLine = 0 then none
  else
    some
      { startLine := range.startLine
        startColumn := range.startColumn
        endLine := if range.endLine < range.startLine then range.startLine else range.endLine
        endColumn := range.endColumn }

/-- The key of a rule: its id, in the repository unless it names one. -/
def ruleKey (repository ruleId : String) : String :=
  if ruleId.toList.contains ':' then ruleId else repository ++ ":" ++ ruleId

/-- The severity that a label stands for; no label stands for medium. -/
def severityOf (label : String) : Severity :=
  if label = "" then .medium else .ofLabel label

def Issue.finding (moduleKey repository : String) (file : Path) (issue : Issue) : Finding :=
  .issue moduleKey file (ruleKey repository issue.ruleId) (issue.range.bind Range.location?)
    issue.message (severityOf issue.severity)

/-- The names and values of metrics, in their order. -/
def Metrics.values (metrics : Metrics) : List (String × Int32) :=
  [("classes", metrics.classes), ("statements", metrics.statements),
    ("functions", metrics.functions), ("complexity", metrics.complexity),
    ("cognitive_complexity", metrics.cognitiveComplexity), ("ncloc", metrics.ncloc),
    ("comment_lines", metrics.commentLines)]

def Metrics.findings (moduleKey : String) (file : Path) (metrics : Metrics) : List Finding :=
  (metrics.values.filter (·.2 ≠ 0)).map fun entry =>
    .measure moduleKey file entry.1 (String.ofList (Json.integerText entry.2.toInt))

/-- What the record of a file contributes: its issues, its metrics and whether it is generated. -/
def File.contribution (moduleKey repository : String) (file : File) : Contribution :=
  let path := Path.ofString file.path
  { findings :=
      file.issues.map (Issue.finding moduleKey repository path) ++
        (file.metrics.map (Metrics.findings moduleKey path)).getD []
    generatedFiles := if file.isGenerated then [path] else []
    warnings := [] }

def contribution (moduleKey repository : String) (files : List File) : Contribution :=
  (files.map (File.contribution moduleKey repository)).foldr (· ++ ·) .empty

def importBytes (repository moduleKey : String) (input : List UInt8) :
    Except Defect Contribution :=
  (read input).map (contribution moduleKey repository)

end ScanMerge.BinaryReport
