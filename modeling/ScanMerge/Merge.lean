import ScanMerge.Import.Registry
import ScanMerge.MethodTable
import ScanMerge.Session
import ScanMerge.TelemetryTable

/-!
Merging: every registered artifact is imported, and what the artifacts contribute becomes one
result. A finding in a file is kept when the file is recorded and not excluded. Of several findings
of one identity the first is kept.
-/

set_option autoImplicit false

namespace ScanMerge

/-- A session in which no artifact could be imported. -/
structure NoValidArtifacts where
  registered : Nat
  failed : Nat
  warnings : List Warning
  deriving DecidableEq, Repr

def NoValidArtifacts.message (error : NoValidArtifacts) : String :=
  s!"No valid artifact was imported ({error.registered} registered, {error.failed} failed)"

namespace Merge

/-! ### Importing -/

/-- What became of an artifact. -/
structure Outcome where
  artifact : Artifact
  contribution : Except ImportError Contribution

structure Imported where
  artifact : Artifact
  contribution : Contribution

def outcomes (registry : Registry) (disk : Disk) (artifacts : List Artifact) : List Outcome :=
  artifacts.map fun artifact => ⟨artifact, registry.importArtifact disk artifact⟩

/-- The artifact, if it was imported. -/
def Outcome.imported? (outcome : Outcome) : Option Imported :=
  match outcome.contribution with
  | .ok contribution => some ⟨outcome.artifact, contribution⟩
  | .error _ => none

/-- The warning about an artifact that could not be imported. -/
def Outcome.warning? (outcome : Outcome) : Option Warning :=
  match outcome.contribution with
  | .ok _ => none
  | .error error =>
    some
      { kind := .skippedArtifact
        moduleKey := some outcome.artifact.moduleKey
        path := some outcome.artifact.path
        message := error.message }

/-! ### Files of findings -/

/-- What the paths that importers report were found to lead to. Two paths of a module with the same
segments are looked up once. -/
structure Resolutions where
  entries : List ((String × List Path.Segment) × Option Path)

def Resolutions.empty : Resolutions :=
  ⟨[]⟩

/-- The canonical path of a file that is reported for a module. -/
def Resolutions.resolve (known : Resolutions) (session : Session) (disk : Disk) (moduleKey : String)
    (path : Path) : Option Path × Resolutions :=
  let key := (moduleKey, path.segments)
  match known.entries.lookup key with
  | some answer => (answer, known)
  | none =>
    let answer := session.resolve? disk moduleKey path
    (answer, ⟨(key, answer) :: known.entries⟩)

/-- The canonical paths of files that are reported for modules; one that leads nowhere is left out.
-/
def resolveAll (session : Session) (disk : Disk) (known : Resolutions) :
    List (String × Path) → List Path × Resolutions
  | [] => ([], known)
  | (moduleKey, path) :: rest =>
    let (answer, known) := known.resolve session disk moduleKey path
    let (paths, known) := resolveAll session disk known rest
    (answer.toList ++ paths, known)

/-- The files that importers say are generated, with their modules. -/
def generatedFiles (imported : List Imported) : List (String × Path) :=
  imported.flatMap fun source =>
    source.contribution.generatedFiles.map fun path => (source.artifact.moduleKey, path)

/-- Findings in a file with this canonical path are kept. -/
def isKept (session : Session) (generated : List Path) (path : Path) : Bool :=
  match session.files.find? path with
  | none => false
  | some record => !record.isExcluded && !generated.any (·.same path)

/-- The findings that importers report, with the modules of their artifacts. -/
def reported (imported : List Imported) : List (String × Finding) :=
  imported.flatMap fun source =>
    source.contribution.findings.map fun finding => (source.artifact.moduleKey, finding)

/-- What is kept of findings, and how many of them are dropped. -/
structure Sifted where
  kept : List Finding
  dropped : Nat

namespace Sifted

def empty : Sifted :=
  ⟨[], 0⟩

/-- One more finding in front, which is kept. -/
def keep (sifted : Sifted) (finding : Finding) : Sifted :=
  { sifted with kept := finding :: sifted.kept }

/-- One more finding in front, which is dropped. -/
def drop (sifted : Sifted) : Sifted :=
  { sifted with dropped := sifted.dropped + 1 }

end Sifted

/-- Keeps the findings whose files are included, with the canonical paths of these. -/
def located (session : Session) (disk : Disk) (generated : List Path) (known : Resolutions) :
    List (String × Finding) → Sifted
  | [] => .empty
  | (moduleKey, finding) :: rest =>
    match finding.sourceFile with
    | none => (located session disk generated known rest).keep finding
    | some path =>
      let (answer, known) := known.resolve session disk moduleKey path
      let after := located session disk generated known rest
      match answer with
      | none => after.drop
      | some canonical =>
        if isKept session generated canonical then
          after.keep { finding with sourceFile := some canonical }
        else
          after.drop

/-- Keeps the findings whose identity is neither among the given ones nor that of a finding before.
-/
def distinct (seen : List Finding.Identity) : List Finding → Sifted
  | [] => .empty
  | finding :: rest =>
    if finding.identity ∈ seen then (distinct seen rest).drop
    else (distinct (finding.identity :: seen) rest).keep finding

/-- A finding with the project type of its module. -/
def annotate (modules : ModuleTable) (finding : Finding) : Finding :=
  { finding with projectType := modules.projectType finding.moduleKey }

/-! ### The result -/

/-- The telemetry of registered values, registered documents and telemetry findings. -/
def telemetry (session : Session) (findings : List Finding) : TelemetryTable :=
  let reported := (findings.filter (·.kind = .telemetry)).map fun finding =>
    (finding.key, finding.message)
  ((TelemetryTable.ofEntries session.telemetry).merge
    (.ofDocuments session.documents)).addAll reported

def resultOf (session : Session) (disk : Disk) (artifactCount : Nat) (imported : List Imported)
    (skipped : List Warning) : AnalysisResult :=
  let (generated, known) := resolveAll session disk .empty (generatedFiles imported)
  let located := located session disk generated known (reported imported)
  let distinct := distinct [] located.kept
  let findings := distinct.kept.map (annotate session.modules)
  { figures :=
      { modules := session.modules.counts
        filesRecorded := session.files.records.length
        filesExcluded := session.files.records.countP FileRecord.isExcluded
        artifactsRegistered := artifactCount
        artifactsImported := imported.length
        artifactsFailed := skipped.length
        findingsFiltered := located.dropped
        duplicatesDropped := distinct.dropped
        totalFindings := findings.length }
    findings
    files := session.files.records
    conflicts := session.files.conflicts
    methodDeclarations := ModuleMethods.ofFacts session.modules.projectType session.methods
    telemetry := telemetry session findings
    summary := .ofFindings findings
    warnings := session.warnings ++ skipped ++ imported.flatMap (·.contribution.warnings) }

def ofOutcomes (session : Session) (disk : Disk) (outcomes : List Outcome) :
    Except NoValidArtifacts AnalysisResult :=
  let imported := outcomes.filterMap Outcome.imported?
  let skipped := outcomes.filterMap Outcome.warning?
  if imported.isEmpty then
    .error ⟨outcomes.length, skipped.length, session.warnings ++ skipped⟩
  else
    .ok (resultOf session disk outcomes.length imported skipped)

end Merge

end ScanMerge
