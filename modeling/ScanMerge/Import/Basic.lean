import ScanMerge.Disk.Basic
import ScanMerge.Json.Parser
import ScanMerge.Json.Shape
import ScanMerge.Project
import ScanMerge.Wire.Reader

/-!
What an artifact contributes to a run, and why one could not be imported.
-/

set_option autoImplicit false

namespace ScanMerge

/-- Everything that one artifact contributes. -/
structure Contribution where
  findings : List Finding
  /-- Files that the producer says are generated, as it spells them. -/
  generatedFiles : List Path
  warnings : List Warning
  deriving DecidableEq, Repr

namespace Contribution

/-- Nothing. -/
def empty : Contribution :=
  ⟨[], [], []⟩

def append (left right : Contribution) : Contribution :=
  ⟨left.findings ++ right.findings, left.generatedFiles ++ right.generatedFiles,
    left.warnings ++ right.warnings⟩

instance : Append Contribution :=
  ⟨append⟩

@[simp] theorem findings_append (left right : Contribution) :
    (left ++ right).findings = left.findings ++ right.findings := rfl

@[simp] theorem generatedFiles_append (left right : Contribution) :
    (left ++ right).generatedFiles = left.generatedFiles ++ right.generatedFiles := rfl

@[simp] theorem warnings_append (left right : Contribution) :
    (left ++ right).warnings = left.warnings ++ right.warnings := rfl

end Contribution

/-- What is wrong with the content of an artifact. -/
inductive Defect where
  | missingHeader
  | unexpectedMagic (found : String)
  | wire (error : Wire.Error)
  | json (error : Json.SyntaxError)
  | missingVersion
  | shape (error : Json.Mismatch)
  | utf8 (fault : Text.Utf8.Fault)
  /-- The event with this number, counted from one. -/
  | eventNotObject (number : Nat)
  /-- A version of the format that is not understood. -/
  | unsupportedVersion (version : String)

/-- Why an artifact could not be imported. -/
inductive ImportError where
  | malformed (kind : ArtifactKind) (path : Path) (message : String)
  | unsupportedVersion (kind : ArtifactKind) (path : Path) (version : String)
  | unreadable (kind : ArtifactKind) (path : Path) (error : IoError)
  | noImporter (kind : ArtifactKind) (path : Path)
  deriving DecidableEq, Repr

/-- What is said about an artifact that could not be imported. -/
def ImportError.message : ImportError → String
  | .malformed kind path message =>
    s!"Malformed {kind.keyword} report {path.display}: {message}"
  | .unsupportedVersion kind path version =>
    s!"Unsupported {kind.keyword} report version '{version}' in {path.display}"
  | .unreadable kind path error =>
    s!"Failed to read {kind.keyword} report {path.display}: {error.message}"
  | .noImporter kind path => s!"No importer registered for {kind.keyword} report {path.display}"

/-- The error that a defect is in an artifact that was read as one of a kind. -/
def Defect.importError (kind : ArtifactKind) (path : Path) : Defect → ImportError
  | .unsupportedVersion version => .unsupportedVersion kind path version
  | .missingHeader => .malformed kind path "missing report header"
  | .unexpectedMagic found => .malformed kind path s!"unexpected magic '{found}'"
  | .wire error => .malformed kind path error.message
  | .json error => .malformed kind path error.message
  | .missingVersion => .malformed kind path "missing SARIF version"
  | .shape error => .malformed kind path error.message
  | .utf8 fault => .malformed kind path fault.message
  | .eventNotObject number => .malformed kind path s!"event {number} is not an object"

end ScanMerge
