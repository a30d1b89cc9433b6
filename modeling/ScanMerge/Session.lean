import ScanMerge.File.Index
import ScanMerge.ModuleTable
import ScanMerge.TelemetryTable

/-!
A session collects what the modules of a project register: the modules themselves, and then the
artifacts, source files, method declarations and telemetry of each. Once draining has begun nothing
more is accepted. A registration that is refused leaves the session as it is.
-/

set_option autoImplicit false

namespace ScanMerge

/-- What a session can be asked to do. -/
inductive Operation where
  | registerModule
  | registerArtifact
  | registerFile
  | registerMethod
  | registerTelemetry
  | registerDocument
  | beginDraining
  | drain
  deriving DecidableEq, Repr

def Operation.words : Operation → String
  | .registerModule => "register a module"
  | .registerArtifact => "register an artifact"
  | .registerFile => "register a file"
  | .registerMethod => "register a method declaration"
  | .registerTelemetry => "register telemetry"
  | .registerDocument => "register JSON telemetry"
  | .beginDraining => "begin draining"
  | .drain => "drain"

/-- Why a session refuses an operation. -/
inductive SessionError where
  | lifecycle (operation : Operation) (phase : Phase)
  | unknownModule (moduleKey : String)
  deriving DecidableEq, Repr

/-- What is said about a refused operation. -/
def SessionError.message : SessionError → String
  | .lifecycle operation phase => s!"Cannot {operation.words} while aggregation is {phase.keyword}"
  | .unknownModule moduleKey => s!"Unknown module: {moduleKey}"

/-- Everything that is collected. -/
structure Session where
  phase : Phase
  modules : ModuleTable
  artifacts : Facts Artifact
  methods : Facts MethodDeclaration
  telemetry : Facts TelemetryEntry
  documents : Facts Json
  files : FileIndex
  /-- In the order in which they were raised. -/
  warnings : List Warning

namespace Session

/-- The session that begins. -/
def ofSettings (settings : Settings) : Session :=
  { phase := .collecting
    modules := .empty
    artifacts := .empty
    methods := .empty
    telemetry := .empty
    documents := .empty
    files := .ofSettings settings
    warnings := [] }

/-- Registrations are accepted while collecting. -/
def checkCollecting (session : Session) (operation : Operation) : Except SessionError Unit :=
  if session.phase = .collecting then .ok () else .error (.lifecycle operation session.phase)

def module (session : Session) (moduleKey : String) : Except SessionError Module :=
  match session.modules.get? moduleKey with
  | some module => .ok module
  | none => .error (.unknownModule moduleKey)

def warn (session : Session) (warning : Warning) : Session :=
  { session with warnings := session.warnings ++ [warning] }

/-! ### Warnings -/

/-- The warning about a module that differs from the one registered under its key. -/
def moduleWarning (moduleKey : String) (kept : Module) : Warning :=
  { kind := .moduleConflict
    moduleKey := some moduleKey
    path := none
    message :=
      "Module registered again with different attributes; keeping " ++ kept.projectType.keyword ++
        " module at " ++ kept.root.display }

/-- The warning about a file that cannot be decoded. -/
def encodingWarning (moduleKey : String) (record : FileRecord) : Warning :=
  { kind := .wrongEncoding
    moduleKey := some moduleKey
    path := some record.path
    message := s!"File is not valid {record.encoding.name}; excluded from analysis" }

def shortHashLength : Nat := 12

def shortHash (hash : String) : String :=
  String.ofList (hash.toList.take shortHashLength)

/-- The warning about a content that differs from the recorded one. -/
def conflictWarning (moduleKey : String) (conflict : Conflict) : Warning :=
  let kept := shortHash conflict.keptHash
  let rejected := shortHash conflict.rejectedHash
  { kind := .conflict
    moduleKey := some moduleKey
    path := some conflict.path
    message :=
      s!"Content differs from the copy registered by '{conflict.keptModule}' " ++
        s!"({kept} vs {rejected}); keeping the first" }

/-- The warning about a file that could not be read. -/
def exclusionWarning (moduleKey : String) (error : PathError) : Warning :=
  { kind := .excludedFile
    moduleKey := some moduleKey
    path := some error.path
    message := error.message }

/-! ### Registrations -/

/-- Registers a module. It precedes every other registration for the module. -/
def registerModule (session : Session) (module : Module) :
    Except SessionError (ModuleRegistration × Session) := do
  session.checkCollecting .registerModule
  let (answer, modules) := session.modules.register module
  let session := { session with modules }
  match answer with
  | .conflicting kept => return (answer, session.warn (moduleWarning module.key kept))
  | _ => return (answer, session)

/-- Registers an artifact of a module. Its path is given from the root of the module. -/
def registerArtifact (session : Session) (moduleKey : String) (kind : ArtifactKind) (path : Path) :
    Except SessionError Session := do
  session.checkCollecting .registerArtifact
  let module ← session.module moduleKey
  let artifact : Artifact := ⟨moduleKey, kind, module.root.join path⟩
  return { session with artifacts := session.artifacts.push moduleKey artifact }

/-- Registers a source file of a module, which is given from the root of the module, and answers the
record that is kept for it. A file that cannot be read is left out. -/
def registerFile (session : Session) (disk : Disk) (moduleKey : String) (path : Path) :
    Except SessionError (Option FileRecord × Session) := do
  session.checkCollecting .registerFile
  let module ← session.module moduleKey
  match session.files.register disk moduleKey module.root path with
  | .error error => return (none, session.warn (exclusionWarning moduleKey error))
  | .ok (registration, files) =>
    let session := { session with files }
    match registration with
    | .recorded record =>
      return (some record,
        if record.wrongEncoding then session.warn (encodingWarning moduleKey record) else session)
    | .duplicate record => return (some record, session)
    | .conflict kept conflict =>
      return (some kept, session.warn (conflictWarning moduleKey conflict))

def registerMethod (session : Session) (moduleKey : String) (method : MethodDeclaration) :
    Except SessionError Session := do
  session.checkCollecting .registerMethod
  let _ ← session.module moduleKey
  return { session with methods := session.methods.push moduleKey method }

def registerTelemetry (session : Session) (moduleKey : String) (entry : TelemetryEntry) :
    Except SessionError Session := do
  session.checkCollecting .registerTelemetry
  let _ ← session.module moduleKey
  return { session with telemetry := session.telemetry.push moduleKey entry }

def registerDocument (session : Session) (moduleKey : String) (document : Json) :
    Except SessionError Session := do
  session.checkCollecting .registerDocument
  let _ ← session.module moduleKey
  return { session with documents := session.documents.push moduleKey document }

/-- Ends the collecting of registrations. -/
def beginDraining (session : Session) : Except SessionError Session := do
  session.checkCollecting .beginDraining
  return { session with phase := .draining }

/-- The canonical path of a file that is reported for a module. -/
def resolve? (session : Session) (disk : Disk) (moduleKey : String) (path : Path) : Option Path :=
  match session.modules.get? moduleKey with
  | none => none
  | some module => (disk.resolveIn module.root path).toOption

end Session

end ScanMerge
