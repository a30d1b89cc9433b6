import ScanMerge.Disk.Basic
import ScanMerge.Json.Decoder
import ScanMerge.Project

/-!
Scan manifests: JSON files that list the modules of a project and what each of them produced.
-/

set_option autoImplicit false

namespace ScanMerge

structure ArtifactEntry where
  kind : ArtifactKind := .protobuf
  path : Path := ⟨[]⟩
  deriving DecidableEq, Repr

structure ModuleEntry where
  key : String := ""
  root : Path := ⟨[]⟩
  projectType : ProjectType := .unknown
  /-- The source files of the module; without a list they are looked for on the disk. -/
  sources : Option (List Path) := none
  artifacts : List ArtifactEntry := []
  telemetry : KeyMap String := .empty
  documents : List Json := []
  methods : List MethodDeclaration := []
  deriving DecidableEq

/-- A manifest. -/
structure Manifest where
  modules : List ModuleEntry := []
  deriving DecidableEq

open Json (Decoder)
open Json.Decoder (Field)

def Path.decoder : Decoder Path :=
  Decoder.convert Path.ofString (Decoder.textFor "path string")

def MethodDeclaration.decoder : Decoder MethodDeclaration :=
  Decoder.record "struct MethodDeclaration"
    [.required "file_path" Decoder.text fun method filePath => { method with filePath },
      .required "type_name" Decoder.text fun method typeName => { method with typeName },
      .required "method_name" Decoder.text fun method methodName => { method with methodName }]
    ⟨"", "", ""⟩

def ArtifactEntry.decoder : Decoder ArtifactEntry :=
  Decoder.record "struct ArtifactEntry"
    [.required "kind" (Decoder.keyword ArtifactKind.all ArtifactKind.keyword)
        fun entry kind => { entry with kind },
      .required "path" Path.decoder fun entry path => { entry with path }]
    {}

def ModuleEntry.decoder : Decoder ModuleEntry :=
  Decoder.record "struct ModuleManifest"
    [.required "key" Decoder.text fun entry key => { entry with key },
      .required "root" Path.decoder fun entry root => { entry with root },
      .defaulted "project_type" (Decoder.keyword ProjectType.all ProjectType.keyword)
        fun entry projectType => { entry with projectType },
      .defaulted "sources" (Decoder.optional (Decoder.list Path.decoder))
        fun entry sources => { entry with sources },
      .defaulted "artifacts" (Decoder.list ArtifactEntry.decoder)
        fun entry artifacts => { entry with artifacts },
      .defaulted "telemetry" (Decoder.map Decoder.text)
        fun entry telemetry => { entry with telemetry },
      .defaulted "telemetry_json" (Decoder.list Decoder.any)
        fun entry documents => { entry with documents },
      .defaulted "methods" (Decoder.list MethodDeclaration.decoder)
        fun entry methods => { entry with methods }]
    {}

def Manifest.decoder : Decoder Manifest :=
  Decoder.record "struct ScanManifest"
    [.defaulted "modules" (Decoder.list ModuleEntry.decoder)
      fun manifest modules => { manifest with modules }]
    {}

/-- Why a manifest could not be loaded. -/
inductive ManifestError where
  | unreadable (path : Path) (error : IoError)
  | malformed (path : Path) (error : Json.SyntaxError)
  deriving DecidableEq

def ManifestError.message : ManifestError → String
  | .unreadable path _ => s!"Failed to read manifest: {path.display}"
  | .malformed path _ => s!"Failed to parse manifest: {path.display}"

def ManifestError.fullMessage (error : ManifestError) : String :=
  match error with
  | .unreadable _ cause => error.message ++ ": " ++ cause.message
  | .malformed _ cause => error.message ++ ": " ++ cause.message

namespace Manifest

def parse (text : List Char) : Except Json.SyntaxError Manifest :=
  decoder.decode (Text.Utf8.encode text)

/-- A module whose root and artifacts are given from a directory. -/
def resolveModule (base : Path) (entry : ModuleEntry) : ModuleEntry :=
  { entry with
    root := base.join entry.root
    artifacts := entry.artifacts.map fun artifact =>
      { artifact with path := base.join artifact.path } }

def directory (path : Path) : Path :=
  path.parent?.getD (.ofString ".")

/-- Loads a manifest. The roots of modules and the paths of artifacts are given from its directory.
-/
def load (disk : Disk) (path : Path) : Except ManifestError Manifest :=
  match disk.readText path with
  | .error error => .error (.unreadable path error)
  | .ok text =>
    match parse text with
    | .error error => .error (.malformed path error)
    | .ok manifest => .ok ⟨manifest.modules.map (resolveModule (directory path))⟩

def artifactCount (manifest : Manifest) : Nat :=
  (manifest.modules.flatMap fun entry => entry.artifacts).length

end Manifest

end ScanMerge
