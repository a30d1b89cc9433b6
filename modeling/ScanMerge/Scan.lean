import ScanMerge.Manifest
import ScanMerge.Session
import ScanMerge.Sources

/-!
Scanning: what the modules of a manifest register.
-/

set_option autoImplicit false

namespace ScanMerge

/-- What the scan of a module registered. -/
structure ModuleScan where
  moduleKey : String
  filesRegistered : Nat
  filesExcluded : Nat
  artifacts : Nat
  deriving DecidableEq, Repr

namespace ModuleEntry

def module (entry : ModuleEntry) : Module :=
  ⟨entry.key, entry.root, entry.projectType⟩

/-- The source files of the module: those of the manifest, or those that are found. -/
def sourceFiles (entry : ModuleEntry) (settings : ScannerSettings) (disk : Disk) : List Path :=
  entry.sources.getD (settings.scan disk entry.root)

end ModuleEntry

namespace Session

/-- Registers files of a module, and counts those that are recorded and those that are left out. -/
def registerFiles (session : Session) (disk : Disk) (moduleKey : String) :
    List Path → Except SessionError (Nat × Nat × Session)
  | [] => .ok (0, 0, session)
  | path :: rest => do
    let (record, session) ← session.registerFile disk moduleKey path
    let (registered, excluded, session) ← session.registerFiles disk moduleKey rest
    return if record.isSome then (registered + 1, excluded, session)
      else (registered, excluded + 1, session)

/-- Registers what a module of a manifest produced. -/
def scanModule (session : Session) (settings : ScannerSettings) (disk : Disk)
    (entry : ModuleEntry) : Except SessionError (ModuleScan × Session) := do
  let (_, session) ← session.registerModule entry.module
  let (registered, excluded, session) ←
    session.registerFiles disk entry.key (entry.sourceFiles settings disk)
  let session ← entry.artifacts.foldlM
    (fun session artifact => session.registerArtifact entry.key artifact.kind artifact.path) session
  let session ← entry.telemetry.entries.foldlM
    (fun session pair => session.registerTelemetry entry.key ⟨pair.1, pair.2⟩) session
  let session ← entry.documents.foldlM
    (fun session document => session.registerDocument entry.key document) session
  let session ← entry.methods.foldlM
    (fun session method => session.registerMethod entry.key method) session
  return (⟨entry.key, registered, excluded, entry.artifacts.length⟩, session)

/-- Registers what the modules of a manifest produced, in their order. -/
def scanModules (session : Session) (settings : ScannerSettings) (disk : Disk) :
    List ModuleEntry → Except SessionError (List ModuleScan × Session)
  | [] => .ok ([], session)
  | entry :: rest => do
    let (scan, session) ← session.scanModule settings disk entry
    let (scans, session) ← session.scanModules settings disk rest
    return (scan :: scans, session)

end Session

end ScanMerge
