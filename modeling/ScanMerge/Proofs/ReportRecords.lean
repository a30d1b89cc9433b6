import ScanMerge.Proofs.InstantTexts
import ScanMerge.Proofs.JsonObjects
import ScanMerge.Proofs.JsonTexts
import ScanMerge.Proofs.Spellings
import ScanMerge.Report.Basic

/-!
The records of a report as JSON values. Each of them is within the limits of the reader of JSON
text, and reads back from its normal form.
-/

set_option autoImplicit false

namespace ScanMerge

open Decimal (Double)
open Json (Fits normal)

def Report.spellPath (path : Path) : Json :=
  .string path.display

def Report.readPath? (value : Json) : Option Path :=
  value.string?.map Path.ofString

open Report (readPath? spellPath)

def Summary.counts (summary : Summary) : List Nat :=
  [summary.total, summary.issues, summary.measures, summary.telemetry, summary.critical,
    summary.high, summary.medium, summary.low] ++ summary.byKey.values

def Figures.counts (figures : Figures) : List Nat :=
  [figures.modules.main, figures.modules.test, figures.modules.unknown, figures.filesRecorded,
    figures.filesExcluded, figures.artifactsRegistered, figures.artifactsImported,
    figures.artifactsFailed, figures.findingsFiltered, figures.duplicatesDropped,
    figures.totalFindings]

def AnalysisResult.counts (result : AnalysisResult) : List Nat :=
  result.figures.counts ++ result.summary.counts

/-! ### Limits -/

namespace Json

variable {allowed : Double → Prop} {depth : Nat}

attribute [simp] Fits.bool Fits.string

@[simp] theorem fits_natural_iff {value : Nat} :
    Fits allowed depth (natural value) ↔ value ≤ greatestWord := by
  constructor
  · rintro (_ | _ | _ | ⟨-, greatest⟩)
    exact Int.ofNat_le.mp greatest
  · intro small
    refine .integer ⟨?_, Int.ofNat_le.mpr small⟩
    have : (0 : Int) ≤ value := Int.natCast_nonneg value
    have : (0 : Int) ≤ signedBound := Int.natCast_nonneg _
    omega

@[simp] theorem fits_word (value : UInt32) : Fits allowed depth (natural value.toNat) :=
  fits_natural_iff.mpr (value.toNat_lt.le.trans (by decide))

theorem fits_object_iff {members : List (String × Json)} :
    Fits allowed (depth + 1) (.object members) ↔
      ∀ member ∈ members, Fits allowed depth member.2 :=
  ⟨fun | .object inner => inner, .object⟩

@[simp] theorem fits_object_nil : Fits allowed (depth + 1) (.object []) :=
  .object fun _ member => nomatch member

@[simp] theorem fits_object_cons {name : String} {value : Json} {members : List (String × Json)} :
    Fits allowed (depth + 1) (.object ((name, value) :: members)) ↔
      Fits allowed depth value ∧ Fits allowed (depth + 1) (.object members) := by
  rw [fits_object_iff, fits_object_iff, List.forall_mem_cons]

@[simp] theorem fits_object_append {front back : List (String × Json)} :
    Fits allowed (depth + 1) (.object (front ++ back)) ↔
      Fits allowed (depth + 1) (.object front) ∧ Fits allowed (depth + 1) (.object back) := by
  rw [fits_object_iff, fits_object_iff, fits_object_iff, List.forall_mem_append]

section Lists

variable {α : Type} {write : α → Json}

theorem fits_object_optional {name : String} {value : Option α}
    (fits : ∀ inner, Fits allowed depth (write inner)) :
    Fits allowed (depth + 1) (.object (optionalMember name write value)) := by
  refine .object fun member inside => ?_
  obtain ⟨inner, -, rfl⟩ := List.mem_map.mp inside
  exact fits inner

theorem fits_array_map {values : List α}
    (fits : ∀ value ∈ values, Fits allowed depth (write value)) :
    Fits allowed (depth + 1) (.array (values.map write)) := by
  refine .array fun item inside => ?_
  obtain ⟨value, member, rfl⟩ := List.mem_map.mp inside
  exact fits value member

theorem fits_object_map {map : KeyMap α}
    (fits : ∀ value ∈ map.values, Fits allowed depth (write value)) :
    Fits allowed (depth + 1)
      (.object (map.entries.map fun entry => (entry.1, write entry.2))) := by
  refine .object fun member inside => ?_
  obtain ⟨entry, present, rfl⟩ := List.mem_map.mp inside
  exact fits entry.2 (List.mem_map_of_mem present)

end Lists

end Json

section Limits

variable {allowed : Double → Prop} {depth : Nat}

theorem Report.fits_spellPath (path : Path) : Fits allowed depth (spellPath path) :=
  .string _

theorem TextRange.fits_json (range : TextRange) : Fits allowed (depth + 1) range.json := by
  simp [TextRange.json, -Json.fits_natural_iff]

theorem Finding.fits_json (finding : Finding) :
    Fits allowed (depth + 2) (finding.json spellPath) := by
  simp [Finding.json, Json.fits_object_optional, Report.fits_spellPath, TextRange.fits_json]

theorem Warning.fits_json (warning : Warning) :
    Fits allowed (depth + 1) (warning.json spellPath) := by
  simp [Warning.json, Json.fits_object_optional, Report.fits_spellPath]

theorem FileRecord.fits_json (record : FileRecord) :
    Fits allowed (depth + 1) (record.json spellPath) := by
  simp [FileRecord.json, Report.fits_spellPath]

theorem Conflict.fits_json (conflict : Conflict) :
    Fits allowed (depth + 1) (conflict.json spellPath) := by
  simp [Conflict.json, Report.fits_spellPath]

theorem ModuleMethods.fits_json (methods : ModuleMethods) :
    Fits allowed (depth + 3) methods.json := by
  have all : Fits allowed (depth + 2) (.array (methods.methods.map MethodDeclaration.json)) :=
    Json.fits_array_map fun method _ => by simp [MethodDeclaration.json]
  simp [ModuleMethods.json, all]

theorem fits_telemetryJson (table : KeyMap (List String)) :
    Fits allowed (depth + 2) (telemetryJson table) :=
  Json.fits_object_map fun _ _ => Json.fits_array_map fun text _ => .string text

theorem Summary.fits_json {summary : Summary}
    (small : ∀ count ∈ summary.counts, count ≤ Json.greatestWord) :
    Fits allowed (depth + 2) summary.json := by
  have byKey : Fits allowed (depth + 1) (countsJson summary.byKey) :=
    Json.fits_object_map fun count member =>
      Json.fits_natural_iff.mpr (small count (List.mem_append_right _ member))
  simp only [counts, List.forall_mem_append, List.forall_mem_cons] at small
  simp [Summary.json, byKey, small]

theorem Figures.fits_json {clock : Clock} {figures : Figures} (duration : allowed clock.duration)
    (small : ∀ count ∈ figures.counts, count ≤ Json.greatestWord) :
    Fits allowed (depth + 1) (figures.json clock) := by
  simp only [counts, List.forall_mem_cons] at small
  simp [Figures.json, small, Json.Fits.double duration]

/-- The members of a result behind its figures. -/
def AnalysisResult.listMembers (result : AnalysisResult) : List (String × Json) :=
  [("findings", .array (result.findings.map (Finding.json spellPath))),
    ("files", .array (result.files.map (FileRecord.json spellPath))),
    ("conflicts", .array (result.conflicts.map (Conflict.json spellPath))),
    ("method_declarations", .array (result.methodDeclarations.map ModuleMethods.json)),
    ("telemetry", telemetryJson result.telemetry),
    ("summary", result.summary.json),
    ("warnings", .array (result.warnings.map (Warning.json spellPath)))]

theorem AnalysisResult.json_eq (clock : Clock) (result : AnalysisResult) :
    result.json spellPath clock =
      .object (("metadata", result.figures.json clock) :: result.listMembers) := rfl

theorem AnalysisResult.fits_listMembers (depth : Nat) {result : AnalysisResult}
    (small : ∀ count ∈ result.counts, count ≤ Json.greatestWord) :
    Fits allowed (depth + 5) (.object result.listMembers) := by
  obtain ⟨-, summary⟩ := List.forall_mem_append.mp small
  simp only [listMembers, Json.fits_object_cons, Json.fits_object_nil, and_true]
  exact ⟨Json.fits_array_map fun finding _ => finding.fits_json,
    Json.fits_array_map fun record _ => record.fits_json,
    Json.fits_array_map fun conflict _ => conflict.fits_json,
    Json.fits_array_map fun methods _ => methods.fits_json,
    fits_telemetryJson _, Summary.fits_json summary,
    Json.fits_array_map fun warning _ => warning.fits_json⟩

theorem AnalysisResult.fits_json (depth : Nat) {clock : Clock} {result : AnalysisResult}
    (duration : allowed clock.duration)
    (small : ∀ count ∈ result.counts, count ≤ Json.greatestWord) :
    Fits allowed (depth + 5) (result.json spellPath clock) := by
  obtain ⟨figures, -⟩ := List.forall_mem_append.mp small
  rw [json_eq, Json.fits_object_cons]
  exact ⟨Figures.fits_json duration figures, fits_listMembers depth small⟩

end Limits

/-- Only the duration of a report is written as a double. -/
theorem AnalysisResult.mapDoubles_json (change : Double → Double) (clock : Clock)
    {result : AnalysisResult} (small : ∀ count ∈ result.counts, count ≤ Json.greatestWord) :
    Json.mapDoubles change (result.json spellPath clock) =
      result.json spellPath { clock with duration := change clock.duration } := by
  have others := (fits_listMembers 0 small).mapDoubles_eq change
  rw [Json.mapDoubles_object] at others
  rw [json_eq, json_eq, Json.mapDoubles_object, List.map_cons, Json.object.inj others]
  rfl

/-! ### Reading -/

theorem Report.readPath?_spellPath {path : Path} (isText : path.IsText) :
    readPath? (normal (spellPath path)) = some path := by
  obtain ⟨text, rfl⟩ := isText
  exact congrArg (some ∘ Path.ofString) (Path.display_ofString text)

@[simp] theorem TextRange.ofJson?_json (range : TextRange) :
    TextRange.ofJson? (normal range.json) = some range := by
  simp [ofJson?, json, Json.field?_normal, List.lookup_cons]

@[simp] theorem FindingKind.keyword?_keyword (kind : FindingKind) :
    Json.keyword? all keyword (normal (.string kind.keyword)) = some kind := by
  cases kind <;> rfl

@[simp] theorem WarningKind.keyword?_keyword (kind : WarningKind) :
    Json.keyword? all keyword (normal (.string kind.keyword)) = some kind := by
  cases kind <;> rfl

@[simp] theorem Text.Encoding.keyword?_keyword (encoding : Text.Encoding) :
    Json.keyword? all keyword (normal (.string encoding.keyword)) = some encoding := by
  cases encoding <;> rfl

@[simp] theorem Severity.ofJson?_keyword (severity : Severity) :
    ofJson? (normal (.string severity.keyword)) = some severity := by
  cases severity <;> rfl

@[simp] theorem ProjectType.ofJson?_keyword (projectType : ProjectType) :
    ofJson? (normal (.string projectType.keyword)) = some projectType := by
  cases projectType <;> rfl

theorem TextRange.normal_json_ne_null (range : TextRange) : normal range.json ≠ .null := by
  rw [json, Json.normal_object]
  exact Json.noConfusion

/-- The members of a finding. -/
def Finding.members (finding : Finding) : List (String × Json) :=
  [("kind", .string finding.kind.keyword)] ++
    Json.optionalMember "source_file" spellPath finding.sourceFile ++
    [("key", .string finding.key)] ++
    Json.optionalMember "location" TextRange.json finding.location ++
    [("message", .string finding.message)] ++
    Json.optionalMember "severity" (fun severity => .string severity.keyword) finding.severity ++
    [("module_key", .string finding.moduleKey),
      ("project_type", .string finding.projectType.keyword)]

theorem Finding.ofJson?_json {finding : Finding}
    (isText : ∀ path ∈ finding.sourceFile, path.IsText) :
    ofJson? readPath? (normal (finding.json spellPath)) = some finding := by
  have sourceFile : (normal (.object finding.members)).optionalField? "source_file" readPath? =
      some finding.sourceFile :=
    Json.optionalField?_normal spellPath
      (by simp [members, List.lookup_append, List.lookup_cons, Json.lookup_optionalMember])
      (fun path inside => Report.readPath?_spellPath (isText path inside))
      (fun _ => Json.noConfusion)
  have location : (normal (.object finding.members)).optionalField? "location"
      TextRange.ofJson? = some finding.location :=
    Json.optionalField?_normal TextRange.json
      (by simp [members, List.lookup_append, List.lookup_cons, Json.lookup_optionalMember])
      (fun range _ => range.ofJson?_json) TextRange.normal_json_ne_null
  have severity : (normal (.object finding.members)).optionalField? "severity"
      Severity.ofJson? = some finding.severity :=
    Json.optionalField?_normal (fun severity => .string severity.keyword)
      (by simp [members, List.lookup_append, List.lookup_cons, Json.lookup_optionalMember])
      (fun severity _ => severity.ofJson?_keyword) (fun _ => Json.noConfusion)
  change ofJson? readPath? (normal (.object finding.members)) = _
  -- What is left are the members that are always there, and the project type.
  simp only [ofJson?, sourceFile, location, severity]
  simp [members, Json.field?_normal, Json.get?_normal, List.lookup_append, List.lookup_cons,
    Json.lookup_optionalMember]

def Warning.members (warning : Warning) : List (String × Json) :=
  [("kind", .string warning.kind.keyword)] ++
    Json.optionalMember "module_key" .string warning.moduleKey ++
    Json.optionalMember "path" spellPath warning.path ++
    [("message", .string warning.message)]

theorem Warning.ofJson?_json {warning : Warning}
    (isText : ∀ path ∈ warning.path, path.IsText) :
    ofJson? readPath? (normal (warning.json spellPath)) = some warning := by
  have moduleKey : (normal (.object warning.members)).optionalField? "module_key"
      Json.string? = some warning.moduleKey :=
    Json.optionalField?_normal .string
      (by simp [members, List.lookup_append, List.lookup_cons, Json.lookup_optionalMember])
      (fun _ _ => rfl) (fun _ => Json.noConfusion)
  have path : (normal (.object warning.members)).optionalField? "path" readPath? =
      some warning.path :=
    Json.optionalField?_normal spellPath
      (by simp [members, List.lookup_append, List.lookup_cons, Json.lookup_optionalMember])
      (fun path inside => Report.readPath?_spellPath (isText path inside))
      (fun _ => Json.noConfusion)
  change ofJson? readPath? (normal (.object warning.members)) = _
  simp only [ofJson?, moduleKey, path]
  simp [members, Json.field?_normal, List.lookup_append, List.lookup_cons,
    Json.lookup_optionalMember]

theorem FileRecord.ofJson?_json {record : FileRecord} (isText : record.path.IsText) :
    ofJson? readPath? (normal (record.json spellPath)) = some record := by
  simp [ofJson?, json, Json.field?_normal, List.lookup_cons, Report.readPath?_spellPath isText]

theorem Conflict.ofJson?_json {conflict : Conflict} (isText : conflict.path.IsText) :
    ofJson? readPath? (normal (conflict.json spellPath)) = some conflict := by
  simp [ofJson?, json, Json.field?_normal, List.lookup_cons, Report.readPath?_spellPath isText]

theorem MethodDeclaration.ofJson?_json (method : MethodDeclaration) :
    ofJson? (normal method.json) = some method := by
  simp [ofJson?, json, Json.field?_normal, List.lookup_cons]

theorem ModuleMethods.ofJson?_json (methods : ModuleMethods) :
    ofJson? (normal methods.json) = some methods := by
  have all : Json.items? MethodDeclaration.ofJson?
      (normal (.array (methods.methods.map MethodDeclaration.json))) = some methods.methods :=
    Json.items?_normal fun method _ => method.ofJson?_json
  simp [ofJson?, json, Json.field?_normal, List.lookup_cons, all]

theorem map?_telemetryJson (table : KeyMap (List String)) :
    Json.map? (Json.items? Json.string?) (normal (telemetryJson table)) = some table :=
  Json.map?_normal fun _ _ => Json.items?_normal fun _ _ => rfl

theorem map?_countsJson (counts : KeyMap Nat) :
    Json.map? Json.natural? (normal (countsJson counts)) = some counts :=
  Json.map?_normal fun count _ => Json.natural?_normal_natural count

theorem Summary.ofJson?_json (summary : Summary) :
    ofJson? (normal summary.json) = some summary := by
  simp [ofJson?, json, Json.field?_normal, List.lookup_cons, map?_countsJson]

theorem Figures.ofJson?_json {clock : Clock} (proper : clock.date.IsProper) (figures : Figures) :
    ofJson? (normal (figures.json clock)) = some (clock, figures) := by
  simp [ofJson?, json, Json.field?_normal, List.lookup_cons, Instant.ofText?_text proper]

/-- A result reads back from the normal form of its JSON value when its paths are spelled by
strings. -/
theorem AnalysisResult.ofJson?_json (clock : Clock) (proper : clock.date.IsProper)
    {result : AnalysisResult} (isText : ∀ path ∈ Report.paths result, path.IsText) :
    ofJson? readPath? (normal (result.json spellPath clock)) = some (clock, result) := by
  simp only [Report.paths, List.forall_mem_append] at isText
  obtain ⟨⟨⟨findingPaths, filePaths⟩, conflictPaths⟩, warningPaths⟩ := isText
  have findings : Json.items? (Finding.ofJson? readPath?)
      (normal (.array (result.findings.map (Finding.json spellPath)))) = some result.findings :=
    Json.items?_normal fun finding member => Finding.ofJson?_json fun path inside =>
      findingPaths path (List.mem_filterMap.mpr ⟨finding, member, inside⟩)
  have files : Json.items? (FileRecord.ofJson? readPath?)
      (normal (.array (result.files.map (FileRecord.json spellPath)))) = some result.files :=
    Json.items?_normal fun record member => FileRecord.ofJson?_json
      (filePaths record.path (List.mem_map_of_mem member))
  have conflicts : Json.items? (Conflict.ofJson? readPath?)
      (normal (.array (result.conflicts.map (Conflict.json spellPath)))) =
        some result.conflicts :=
    Json.items?_normal fun conflict member => Conflict.ofJson?_json
      (conflictPaths conflict.path (List.mem_map_of_mem member))
  have methods : Json.items? ModuleMethods.ofJson?
      (normal (.array (result.methodDeclarations.map ModuleMethods.json))) =
        some result.methodDeclarations :=
    Json.items?_normal fun methods _ => methods.ofJson?_json
  have warnings : Json.items? (Warning.ofJson? readPath?)
      (normal (.array (result.warnings.map (Warning.json spellPath)))) = some result.warnings :=
    Json.items?_normal fun warning member => Warning.ofJson?_json fun path inside =>
      warningPaths path (List.mem_filterMap.mpr ⟨warning, member, inside⟩)
  simp [ofJson?, json, Json.field?_normal, List.lookup_cons, Figures.ofJson?_json proper,
    findings, files, conflicts, methods, map?_telemetryJson, Summary.ofJson?_json, warnings]

end ScanMerge
