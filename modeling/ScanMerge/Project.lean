import ScanMerge.Finding
import ScanMerge.Text.Encoding

/-!
What a project run knows: its modules, the artifacts and methods of each module, the records of its
source files, its warnings, and the result that is published in the end.
-/

set_option autoImplicit false

namespace ScanMerge

/-- A compilation unit of the project. -/
structure Module where
  key : String
  /-- Relative paths of the module are read from here. -/
  root : Path
  projectType : ProjectType
  deriving DecidableEq, Repr

/-- The modules differ at most in the spelling of their root. -/
def Module.same (left right : Module) : Bool :=
  left.key = right.key && left.root.same right.root && left.projectType = right.projectType

/-- A format of external reports. -/
inductive ArtifactKind where
  | protobuf
  | roslyn
  | telemetryJson
  | coverage
  | testResults
  deriving DecidableEq, Repr

namespace ArtifactKind

def all : List ArtifactKind :=
  [.protobuf, .roslyn, .telemetryJson, .coverage, .testResults]

/-- The word for a kind, in data files and for readers. -/
def keyword : ArtifactKind → String
  | .protobuf => "protobuf"
  | .roslyn => "roslyn"
  | .telemetryJson => "telemetry-json"
  | .coverage => "coverage"
  | .testResults => "test-results"

end ArtifactKind

/-- A report that was produced for a module. -/
structure Artifact where
  moduleKey : String
  kind : ArtifactKind
  path : Path
  deriving DecidableEq, Repr

/-- What is known of a source file. -/
structure FileRecord where
  path : Path
  /-- The module that registered the file first. -/
  moduleKey : String
  encoding : Text.Encoding
  /-- The digest of the content. -/
  hash : String
  generated : Bool
  wrongEncoding : Bool
  deriving DecidableEq, Repr

/-- Findings in an excluded file are dropped. -/
def FileRecord.isExcluded (record : FileRecord) : Bool :=
  record.generated || record.wrongEncoding

/-- A registration of a path with a content other than the first one. -/
structure Conflict where
  path : Path
  keptModule : String
  keptHash : String
  rejectedModule : String
  rejectedHash : String
  deriving DecidableEq, Repr

inductive WarningKind where
  | conflict
  | excludedFile
  | wrongEncoding
  | skippedArtifact
  | unmappedRules
  | moduleConflict
  deriving DecidableEq, Repr

namespace WarningKind

def all : List WarningKind :=
  [.conflict, .excludedFile, .wrongEncoding, .skippedArtifact, .unmappedRules, .moduleConflict]

def label : WarningKind → String
  | .conflict => "Conflict"
  | .excludedFile => "Excluded file"
  | .wrongEncoding => "Wrong encoding"
  | .skippedArtifact => "Skipped artifact"
  | .unmappedRules => "Unmapped rules"
  | .moduleConflict => "Module conflict"

/-- The word written to data files. -/
def keyword : WarningKind → String
  | .conflict => "conflict"
  | .excludedFile => "excluded-file"
  | .wrongEncoding => "wrong-encoding"
  | .skippedArtifact => "skipped-artifact"
  | .unmappedRules => "unmapped-rules"
  | .moduleConflict => "module-conflict"

end WarningKind

/-- Something that did not end the run. -/
structure Warning where
  kind : WarningKind
  moduleKey : Option String
  path : Option Path
  message : String
  deriving DecidableEq, Repr

structure MethodDeclaration where
  filePath : String
  typeName : String
  methodName : String
  deriving DecidableEq, Repr

/-- The order of method declarations: file, type, method. -/
def MethodDeclaration.compare (left right : MethodDeclaration) : Ordering :=
  (Ord.compare left.filePath right.filePath).then <|
    (Ord.compare left.typeName right.typeName).then (Ord.compare left.methodName right.methodName)

/-- The distinct methods of a module, in order. -/
structure ModuleMethods where
  moduleKey : String
  projectType : ProjectType
  methods : List MethodDeclaration
  deriving DecidableEq, Repr

/-- How far a run has come. -/
inductive Phase where
  | collecting
  | draining
  | finalized
  deriving DecidableEq, Repr

def Phase.keyword : Phase → String
  | .collecting => "collecting"
  | .draining => "draining"
  | .finalized => "finalized"

/-- The numbers of modules of each project type. -/
structure ModuleCounts where
  main : Nat
  test : Nat
  unknown : Nat
  deriving DecidableEq, Repr

def ModuleCounts.total (counts : ModuleCounts) : Nat :=
  counts.main + counts.test + counts.unknown

/-- The figures of a run, the clock values aside. -/
structure Figures where
  modules : ModuleCounts
  filesRecorded : Nat
  filesExcluded : Nat
  artifactsRegistered : Nat
  artifactsImported : Nat
  artifactsFailed : Nat
  findingsFiltered : Nat
  duplicatesDropped : Nat
  totalFindings : Nat
  deriving DecidableEq, Repr

/-- The merged result of a run. -/
structure AnalysisResult where
  figures : Figures
  findings : List Finding
  files : List FileRecord
  conflicts : List Conflict
  methodDeclarations : List ModuleMethods
  telemetry : KeyMap (List String)
  summary : Summary
  warnings : List Warning
  deriving DecidableEq

namespace AnalysisResult

def fileRecord? (result : AnalysisResult) (path : Path) : Option FileRecord :=
  result.files.find? (·.path.same path)

/-- The run went through without a warning. -/
def isClean (result : AnalysisResult) : Bool :=
  result.warnings.isEmpty

def warningCount (result : AnalysisResult) (kind : WarningKind) : Nat :=
  result.warnings.countP (·.kind = kind)

end AnalysisResult

end ScanMerge
