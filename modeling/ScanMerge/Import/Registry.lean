import ScanMerge.Import.BinaryReport
import ScanMerge.Import.Sarif
import ScanMerge.Import.Telemetry

/-!
The importers that are at hand, one for each kind of artifact at most.
-/

set_option autoImplicit false

namespace ScanMerge

/-- Something that reads artifacts of one kind. -/
inductive Importer where
  /-- Reads binary reports; rules without a repository get this one. -/
  | binaryReport (repository : String)
  /-- Reads SARIF logs. -/
  | sarif (settings : RuleSettings)
  /-- Reads telemetry events. -/
  | telemetry

namespace Importer

/-- The kind of artifacts that an importer reads. -/
def kind : Importer → ArtifactKind
  | .binaryReport _ => .protobuf
  | .sarif _ => .roslyn
  | .telemetry => .telemetryJson

/-- Reads the content of an artifact, of whatever kind that is said to be. -/
def importBytes (importer : Importer) (artifact : Artifact) (input : List UInt8) :
    Except ImportError Contribution :=
  let read :=
    match importer with
    | .binaryReport repository => BinaryReport.importBytes repository artifact.moduleKey input
    | .sarif settings => Sarif.importBytes settings artifact input
    | .telemetry => Telemetry.importBytes artifact.moduleKey input
  read.mapError (Defect.importError importer.kind artifact.path)

def importArtifact (importer : Importer) (disk : Disk) (artifact : Artifact) :
    Except ImportError Contribution :=
  match disk.read artifact.path with
  | .error error => .error (.unreadable artifact.kind artifact.path error)
  | .ok input => importer.importBytes artifact input

end Importer

structure Registry where
  importers : List Importer

namespace Registry

def empty : Registry :=
  ⟨[]⟩

/-- The registry with an importer, in place of any other of its kind. -/
def register (registry : Registry) (importer : Importer) : Registry :=
  ⟨registry.importers.filter (·.kind ≠ importer.kind) ++ [importer]⟩

/-- The importers for all kinds that are understood. -/
def standard (settings : Settings) : Registry :=
  ((empty.register (.binaryReport settings.rules.repository)).register
    (.sarif settings.rules)).register .telemetry

def find? (registry : Registry) (kind : ArtifactKind) : Option Importer :=
  registry.importers.find? (·.kind = kind)

/-- Artifacts of the kind can be imported. -/
def supports (registry : Registry) (kind : ArtifactKind) : Bool :=
  (registry.find? kind).isSome

/-- The kinds of artifacts that can be imported, in order. -/
def kinds (registry : Registry) : List ArtifactKind :=
  ArtifactKind.all.filter registry.supports

def importArtifact (registry : Registry) (disk : Disk) (artifact : Artifact) :
    Except ImportError Contribution :=
  match registry.find? artifact.kind with
  | none => .error (.noImporter artifact.kind artifact.path)
  | some importer => importer.importArtifact disk artifact

end Registry

end ScanMerge
