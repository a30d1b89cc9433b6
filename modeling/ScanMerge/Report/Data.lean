import ScanMerge.Json.Fields
import ScanMerge.Report.Document

/-!
Results and their parts as JSON values. The members of a record are written in a fixed order. How a
path is written is left open: `spell` writes one and `read` reads one.
-/

set_option autoImplicit false

namespace ScanMerge

/-! ### Writing -/

def TextRange.json (range : TextRange) : Json :=
  .object
    [("start_line", .natural range.startLine.toNat),
      ("start_column", .natural range.startColumn.toNat),
      ("end_line", .natural range.endLine.toNat), ("end_column", .natural range.endColumn.toNat)]

def Finding.json (spell : Path → Json) (finding : Finding) : Json :=
  .object <|
    [("kind", .string finding.kind.keyword)] ++
    Json.optionalMember "source_file" spell finding.sourceFile ++
    [("key", .string finding.key)] ++
    Json.optionalMember "location" TextRange.json finding.location ++
    [("message", .string finding.message)] ++
    Json.optionalMember "severity" (fun severity => .string severity.keyword) finding.severity ++
    [("module_key", .string finding.moduleKey),
      ("project_type", .string finding.projectType.keyword)]

def Warning.json (spell : Path → Json) (warning : Warning) : Json :=
  .object <|
    [("kind", .string warning.kind.keyword)] ++
    Json.optionalMember "module_key" .string warning.moduleKey ++
    Json.optionalMember "path" spell warning.path ++
    [("message", .string warning.message)]

def Module.json (spell : Path → Json) (module : Module) : Json :=
  .object
    [("key", .string module.key), ("root", spell module.root),
      ("project_type", .string module.projectType.keyword)]

def Artifact.json (spell : Path → Json) (artifact : Artifact) : Json :=
  .object
    [("module_key", .string artifact.moduleKey), ("kind", .string artifact.kind.keyword),
      ("path", spell artifact.path)]

def FileRecord.json (spell : Path → Json) (record : FileRecord) : Json :=
  .object
    [("path", spell record.path), ("module_key", .string record.moduleKey),
      ("encoding", .string record.encoding.keyword), ("hash", .string record.hash),
      ("generated", .bool record.generated), ("wrong_encoding", .bool record.wrongEncoding)]

def Conflict.json (spell : Path → Json) (conflict : Conflict) : Json :=
  .object
    [("path", spell conflict.path), ("kept_module", .string conflict.keptModule),
      ("kept_hash", .string conflict.keptHash),
      ("rejected_module", .string conflict.rejectedModule),
      ("rejected_hash", .string conflict.rejectedHash)]

def MethodDeclaration.json (method : MethodDeclaration) : Json :=
  .object
    [("file_path", .string method.filePath), ("type_name", .string method.typeName),
      ("method_name", .string method.methodName)]

def ModuleMethods.json (methods : ModuleMethods) : Json :=
  .object
    [("module_key", .string methods.moduleKey),
      ("project_type", .string methods.projectType.keyword),
      ("methods", .array (methods.methods.map MethodDeclaration.json))]

def telemetryJson (table : KeyMap (List String)) : Json :=
  .object (table.entries.map fun entry => (entry.1, Json.texts entry.2))

def countsJson (counts : KeyMap Nat) : Json :=
  .object (counts.entries.map fun entry => (entry.1, Json.natural entry.2))

def Summary.json (summary : Summary) : Json :=
  .object
    [("total", .natural summary.total), ("issues", .natural summary.issues),
      ("measures", .natural summary.measures), ("telemetry", .natural summary.telemetry),
      ("critical", .natural summary.critical), ("high", .natural summary.high),
      ("medium", .natural summary.medium), ("low", .natural summary.low),
      ("by_key", countsJson summary.byKey)]

def Figures.json (clock : Clock) (figures : Figures) : Json :=
  .object
    [("analysis_date", .string clock.date.text),
      ("main_modules", .natural figures.modules.main),
      ("test_modules", .natural figures.modules.test),
      ("unknown_modules", .natural figures.modules.unknown),
      ("files_recorded", .natural figures.filesRecorded),
      ("files_excluded", .natural figures.filesExcluded),
      ("artifacts_registered", .natural figures.artifactsRegistered),
      ("artifacts_imported", .natural figures.artifactsImported),
      ("artifacts_failed", .natural figures.artifactsFailed),
      ("findings_filtered", .natural figures.findingsFiltered),
      ("duplicates_dropped", .natural figures.duplicatesDropped),
      ("total_findings", .natural figures.totalFindings),
      ("duration_seconds", .double clock.duration)]

def AnalysisResult.json (spell : Path → Json) (clock : Clock) (result : AnalysisResult) : Json :=
  .object
    [("metadata", result.figures.json clock),
      ("findings", .array (result.findings.map (Finding.json spell))),
      ("files", .array (result.files.map (FileRecord.json spell))),
      ("conflicts", .array (result.conflicts.map (Conflict.json spell))),
      ("method_declarations", .array (result.methodDeclarations.map ModuleMethods.json)),
      ("telemetry", telemetryJson result.telemetry),
      ("summary", result.summary.json),
      ("warnings", .array (result.warnings.map (Warning.json spell)))]

/-! ### Reading -/

def TextRange.ofJson? (value : Json) : Option TextRange := do
  let startLine ← value.field? "start_line" Json.word?
  let startColumn ← value.field? "start_column" Json.word?
  let endLine ← value.field? "end_line" Json.word?
  let endColumn ← value.field? "end_column" Json.word?
  return { startLine, startColumn, endLine, endColumn }

def Severity.ofJson? : Json → Option Severity :=
  Json.keyword? Severity.all Severity.keyword

def ProjectType.ofJson? : Json → Option ProjectType :=
  Json.keyword? ProjectType.all ProjectType.keyword

def ArtifactKind.ofJson? : Json → Option ArtifactKind :=
  Json.keyword? ArtifactKind.all ArtifactKind.keyword

/-- Reads a finding. One without a project type is of an unknown one. -/
def Finding.ofJson? (read : Json → Option Path) (value : Json) : Option Finding := do
  let kind ← value.field? "kind" (Json.keyword? FindingKind.all FindingKind.keyword)
  let sourceFile ← value.optionalField? "source_file" read
  let key ← value.field? "key" Json.string?
  let location ← value.optionalField? "location" TextRange.ofJson?
  let message ← value.field? "message" Json.string?
  let severity ← value.optionalField? "severity" Severity.ofJson?
  let moduleKey ← value.field? "module_key" Json.string?
  let projectType ←
    match value.get? "project_type" with
    | none => some .unknown
    | some found => ProjectType.ofJson? found
  return { kind, sourceFile, key, location, message, severity, moduleKey, projectType }

def Warning.ofJson? (read : Json → Option Path) (value : Json) : Option Warning := do
  let kind ← value.field? "kind" (Json.keyword? WarningKind.all WarningKind.keyword)
  let moduleKey ← value.optionalField? "module_key" Json.string?
  let path ← value.optionalField? "path" read
  let message ← value.field? "message" Json.string?
  return { kind, moduleKey, path, message }

def Module.ofJson? (read : Json → Option Path) (value : Json) : Option Module := do
  let key ← value.field? "key" Json.string?
  let root ← value.field? "root" read
  let projectType ← value.field? "project_type" ProjectType.ofJson?
  return { key, root, projectType }

def FileRecord.ofJson? (read : Json → Option Path) (value : Json) : Option FileRecord := do
  let path ← value.field? "path" read
  let moduleKey ← value.field? "module_key" Json.string?
  let encoding ←
    value.field? "encoding" (Json.keyword? Text.Encoding.all Text.Encoding.keyword)
  let hash ← value.field? "hash" Json.string?
  let generated ← value.field? "generated" Json.truth?
  let wrongEncoding ← value.field? "wrong_encoding" Json.truth?
  return { path, moduleKey, encoding, hash, generated, wrongEncoding }

def Conflict.ofJson? (read : Json → Option Path) (value : Json) : Option Conflict := do
  let path ← value.field? "path" read
  let keptModule ← value.field? "kept_module" Json.string?
  let keptHash ← value.field? "kept_hash" Json.string?
  let rejectedModule ← value.field? "rejected_module" Json.string?
  let rejectedHash ← value.field? "rejected_hash" Json.string?
  return { path, keptModule, keptHash, rejectedModule, rejectedHash }

def MethodDeclaration.ofJson? (value : Json) : Option MethodDeclaration := do
  let filePath ← value.field? "file_path" Json.string?
  let typeName ← value.field? "type_name" Json.string?
  let methodName ← value.field? "method_name" Json.string?
  return { filePath, typeName, methodName }

def ModuleMethods.ofJson? (value : Json) : Option ModuleMethods := do
  let moduleKey ← value.field? "module_key" Json.string?
  let projectType ← value.field? "project_type" ProjectType.ofJson?
  let methods ← value.field? "methods" (Json.items? MethodDeclaration.ofJson?)
  return { moduleKey, projectType, methods }

def Summary.ofJson? (value : Json) : Option Summary := do
  let total ← value.field? "total" Json.natural?
  let issues ← value.field? "issues" Json.natural?
  let measures ← value.field? "measures" Json.natural?
  let telemetry ← value.field? "telemetry" Json.natural?
  let critical ← value.field? "critical" Json.natural?
  let high ← value.field? "high" Json.natural?
  let medium ← value.field? "medium" Json.natural?
  let low ← value.field? "low" Json.natural?
  let byKey ← value.field? "by_key" (Json.map? Json.natural?)
  return { total, issues, measures, telemetry, critical, high, medium, low, byKey }

def Figures.ofJson? (value : Json) : Option (Clock × Figures) := do
  let date ← value.field? "analysis_date" Json.string?
  let date ← Instant.ofText? date.toList
  let main ← value.field? "main_modules" Json.natural?
  let test ← value.field? "test_modules" Json.natural?
  let unknown ← value.field? "unknown_modules" Json.natural?
  let filesRecorded ← value.field? "files_recorded" Json.natural?
  let filesExcluded ← value.field? "files_excluded" Json.natural?
  let artifactsRegistered ← value.field? "artifacts_registered" Json.natural?
  let artifactsImported ← value.field? "artifacts_imported" Json.natural?
  let artifactsFailed ← value.field? "artifacts_failed" Json.natural?
  let findingsFiltered ← value.field? "findings_filtered" Json.natural?
  let duplicatesDropped ← value.field? "duplicates_dropped" Json.natural?
  let totalFindings ← value.field? "total_findings" Json.natural?
  let duration ← value.field? "duration_seconds" Json.double?
  return (⟨date, duration⟩,
    { modules := ⟨main, test, unknown⟩
      filesRecorded, filesExcluded, artifactsRegistered, artifactsImported, artifactsFailed
      findingsFiltered, duplicatesDropped, totalFindings })

def AnalysisResult.ofJson? (read : Json → Option Path) (value : Json) :
    Option (Clock × AnalysisResult) := do
  let (clock, figures) ← value.field? "metadata" Figures.ofJson?
  let findings ← value.field? "findings" (Json.items? (Finding.ofJson? read))
  let files ← value.field? "files" (Json.items? (FileRecord.ofJson? read))
  let conflicts ← value.field? "conflicts" (Json.items? (Conflict.ofJson? read))
  let methodDeclarations ←
    value.field? "method_declarations" (Json.items? ModuleMethods.ofJson?)
  let telemetry ←
    value.field? "telemetry" (Json.map? (Json.items? Json.string?))
  let summary ← value.field? "summary" Summary.ofJson?
  let warnings ← value.field? "warnings" (Json.items? (Warning.ofJson? read))
  return (clock,
    { figures, findings, files, conflicts, methodDeclarations, telemetry, summary, warnings })

end ScanMerge
