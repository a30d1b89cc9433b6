import ScanMerge.FileUrl
import ScanMerge.Import.Basic
import ScanMerge.Settings

/-!
SARIF logs of external analyzers, in the layouts 1.0.0 and 2.1.0. A result is suppressed, or its
rule is not mapped, or it becomes an issue.
-/

set_option autoImplicit false

namespace ScanMerge.Sarif

open Json (Shape)

def supportedVersions : List String := ["1.0.0", "2.1.0"]

/-- A range of lines and columns. -/
structure Region where
  startLine : Option UInt32 := none
  startColumn : Option UInt32 := none
  endLine : Option UInt32 := none
  endColumn : Option UInt32 := none
  deriving DecidableEq, Repr

/-- A place in a file. In layout 1.0.0 it has a URI of its own, in 2.1.0 that of an artifact. -/
structure Place where
  uri : Option String := none
  artifactUri : Option String := none
  region : Option Region := none
  deriving DecidableEq, Repr

/-- A location of a result: `resultFile` in layout 1.0.0, `physicalLocation` in 2.1.0. -/
structure Location where
  resultFile : Option Place := none
  physicalLocation : Option Place := none
  deriving DecidableEq, Repr

structure Result where
  ruleId : String := ""
  level : Option String := none
  /-- The text of the message. -/
  message : Option String := none
  locations : List Location := []
  /-- Layout 1.0.0. -/
  suppressionStates : List String := []
  /-- Layout 2.1.0; what a suppression holds does not matter. -/
  suppressionCount : Nat := 0
  deriving DecidableEq, Repr

/-! ### Reading -/

/-- A region. -/
def Region.shape : Shape Region :=
  Shape.record "struct Region"
    [⟨"startLine", false⟩, ⟨"startColumn", false⟩, ⟨"endLine", false⟩, ⟨"endColumn", false⟩]
    (fun region name value =>
      match name with
      | "startLine" => (Shape.optional Shape.word value).map ({ region with startLine := · })
      | "startColumn" => (Shape.optional Shape.word value).map ({ region with startColumn := · })
      | "endLine" => (Shape.optional Shape.word value).map ({ region with endLine := · })
      | "endColumn" => (Shape.optional Shape.word value).map ({ region with endColumn := · })
      | _ => .ok region)
    {}

/-- The location of an artifact, of which only the URI matters. -/
def artifactShape : Shape (Option String) :=
  Shape.record "struct ArtifactLocation" [⟨"uri", false⟩]
    (fun uri name value =>
      match name with
      | "uri" => Shape.optional Shape.text value
      | _ => .ok uri)
    none

def Place.shape : Shape Place :=
  Shape.record "struct PhysicalLocation"
    [⟨"uri", false⟩, ⟨"artifactLocation", false⟩, ⟨"region", false⟩]
    (fun place name value =>
      match name with
      | "uri" => (Shape.optional Shape.text value).map ({ place with uri := · })
      | "artifactLocation" =>
        (Shape.optional artifactShape value).map ({ place with artifactUri := ·.join })
      | "region" => (Shape.optional Region.shape value).map ({ place with region := · })
      | _ => .ok place)
    {}

def Location.shape : Shape Location :=
  Shape.record "struct Location" [⟨"resultFile", false⟩, ⟨"physicalLocation", false⟩]
    (fun location name value =>
      match name with
      | "resultFile" => (Shape.optional Place.shape value).map ({ location with resultFile := · })
      | "physicalLocation" =>
        (Shape.optional Place.shape value).map ({ location with physicalLocation := · })
      | _ => .ok location)
    {}

/-- A message: a string, or an object with a text that may be absent. -/
def messageShape : Shape String
  | .string text => .ok text
  | .object members =>
    match (Json.object members).get? "text" with
    | none => .ok ""
    | some .null => .ok ""
    | some (.string text) => .ok text
    | some _ => .error (.noVariant "Message")
  | _ => .error (.noVariant "Message")

def Result.shape : Shape Result :=
  Shape.record "struct SarifResult"
    [⟨"ruleId", true⟩, ⟨"level", false⟩, ⟨"message", false⟩, ⟨"locations", true⟩,
      ⟨"suppressionStates", true⟩, ⟨"suppressions", true⟩]
    (fun result name value =>
      match name with
      | "ruleId" => (Shape.text value).map ({ result with ruleId := · })
      | "level" => (Shape.optional Shape.text value).map ({ result with level := · })
      | "message" => (Shape.optional messageShape value).map ({ result with message := · })
      | "locations" => (Shape.list Location.shape value).map ({ result with locations := · })
      | "suppressionStates" =>
        (Shape.list Shape.text value).map ({ result with suppressionStates := · })
      | "suppressions" =>
        (Shape.list Shape.any value).map ({ result with suppressionCount := ·.length })
      | _ => .ok result)
    {}

/-- A run, of which only the results matter. -/
def runShape : Shape (List Result) :=
  Shape.record "struct Run" [⟨"results", true⟩]
    (fun results name value =>
      match name with
      | "results" => Shape.list Result.shape value
      | _ => .ok results)
    []

/-- A log, of which only the results of its runs matter. -/
def logShape : Shape (List (List Result)) :=
  Shape.record "struct SarifLog" [⟨"runs", true⟩]
    (fun runs name value =>
      match name with
      | "runs" => Shape.list runShape value
      | _ => .ok runs)
    []

/-- The results of a log, the runs one after the other. -/
def read (input : List UInt8) : Except Defect (List Result) :=
  match Json.parse input with
  | .error error => .error (.json error)
  | .ok document =>
    match (document.get? "version").bind Json.string? with
    | none => .error .missingVersion
    | some version =>
      if supportedVersions.contains version then
        match logShape document with
        | .error error => .error (.shape error)
        | .ok runs => .ok runs.flatten
      else
        .error (.unsupportedVersion version)

/-! ### Rules -/

/-- The id is the letter S with digits after it. -/
def isOwnRule (ruleId : String) : Bool :=
  match ruleId.toList with
  | 'S' :: digits => digits ≠ [] && digits.all Char.isDigit
  | _ => false

/-- The key of a rule: in the repository when it is one of the analyzer's own, and otherwise the one
that is configured. -/
def ruleKey? (settings : RuleSettings) (ruleId : String) : Option String :=
  if isOwnRule ruleId then some (settings.repository ++ ":" ++ ruleId)
  else settings.ruleMap.get? ruleId

/-! ### Findings -/

/-- A suppressed result counts for nothing. -/
def Result.isSuppressed (result : Result) : Bool :=
  !result.suppressionStates.isEmpty || result.suppressionCount ≠ 0

/-- The place of a region whose first line is given and not zero. -/
def Region.location? (region : Region) : Option TextRange :=
  match region.startLine with
  | none => none
  | some startLine =>
    if startLine = 0 then none
    else
      let endLine := region.endLine.getD startLine
      some
        { startLine
          startColumn := region.startColumn.getD 0
          endLine := if endLine < startLine then startLine else endLine
          endColumn := region.endColumn.getD 0 }

/-- The place of the first location. -/
def Result.place? (result : Result) : Option Place :=
  result.locations.head?.bind fun location => location.physicalLocation <|> location.resultFile

def Place.file? (place : Place) : Option Path :=
  (place.artifactUri <|> place.uri).map Path.ofUri

/-- The severity of a level; a result without one is a warning. -/
def severityOf (level : Option String) : Severity :=
  match level.getD "warning" with
  | "error" => .high
  | "warning" => .medium
  | _ => .low

/-- The finding that a result is. Without a file it is an issue of the module as a whole. -/
def Result.finding (moduleKey ruleKey : String) (result : Result) : Finding :=
  match result.place?.bind Place.file? with
  | some file =>
    .issue moduleKey file ruleKey ((result.place?.bind Place.region).bind Region.location?)
      (result.message.getD "") (severityOf result.level)
  | none => .projectIssue moduleKey ruleKey (result.message.getD "") (severityOf result.level)

def findings (settings : RuleSettings) (moduleKey : String) (results : List Result) :
    List Finding :=
  results.filterMap fun result =>
    (ruleKey? settings result.ruleId).map fun key => result.finding moduleKey key

/-- The ids of rules without a key, one for each result. -/
def unmappedIds (settings : RuleSettings) (results : List Result) : List String :=
  (results.map Result.ruleId).filter fun id => (ruleKey? settings id).isNone

/-- The warning about results whose rules have no key. -/
def unmappedWarning (artifact : Artifact) (ids : List String) : Warning :=
  { kind := .unmappedRules
    moduleKey := some artifact.moduleKey
    path := some artifact.path
    message :=
      s!"Dropped {ids.length} results with unmapped rule ids: " ++
        String.intercalate ", " (distinctTexts ids) }

def contribution (settings : RuleSettings) (artifact : Artifact) (results : List Result) :
    Contribution :=
  let active := results.filter fun result => !result.isSuppressed
  let unmapped := unmappedIds settings active
  { findings := findings settings artifact.moduleKey active
    generatedFiles := []
    warnings := if unmapped = [] then [] else [unmappedWarning artifact unmapped] }

def importBytes (settings : RuleSettings) (artifact : Artifact) (input : List UInt8) :
    Except Defect Contribution :=
  (read input).map (contribution settings artifact)

end ScanMerge.Sarif
