import ScanMerge.Aggregation

/-!
The calls on an aggregation as data: registrations, the two steps of draining, and questions. A
history lists calls on one aggregation in order, each with the disk as it was then.
-/

set_option autoImplicit false

namespace ScanMerge

/-- Something that is registered for a module. -/
inductive Registration where
  | module (module : Module)
  | artifact (moduleKey : String) (kind : ArtifactKind) (path : Path)
  | file (moduleKey : String) (path : Path)
  | method (moduleKey : String) (method : MethodDeclaration)
  | telemetry (moduleKey : String) (entry : TelemetryEntry)
  | document (moduleKey : String) (document : Json)

namespace Registration

def moduleKey : Registration → String
  | .module registered => registered.key
  | .artifact moduleKey _ _ => moduleKey
  | .file moduleKey _ => moduleKey
  | .method moduleKey _ => moduleKey
  | .telemetry moduleKey _ => moduleKey
  | .document moduleKey _ => moduleKey

def operation : Registration → Operation
  | .module _ => .registerModule
  | .artifact _ _ _ => .registerArtifact
  | .file _ _ => .registerFile
  | .method _ _ => .registerMethod
  | .telemetry _ _ => .registerTelemetry
  | .document _ _ => .registerDocument

/-- What an accepted registration answers. -/
inductive Answer where
  | module (answer : ModuleRegistration)
  | file (record : Option FileRecord)
  | done

end Registration

namespace Session

def register (session : Session) (disk : Disk) :
    Registration → Except SessionError (Registration.Answer × Session)
  | .module module =>
    (session.registerModule module).map fun (answer, session) => (.module answer, session)
  | .artifact moduleKey kind path =>
    (session.registerArtifact moduleKey kind path).map fun session => (.done, session)
  | .file moduleKey path =>
    (session.registerFile disk moduleKey path).map fun (record, session) => (.file record, session)
  | .method moduleKey method =>
    (session.registerMethod moduleKey method).map fun session => (.done, session)
  | .telemetry moduleKey entry =>
    (session.registerTelemetry moduleKey entry).map fun session => (.done, session)
  | .document moduleKey document =>
    (session.registerDocument moduleKey document).map fun session => (.done, session)

/-- The session after a registration; one that is refused leaves it as it is. -/
def registering (session : Session) (disk : Disk) (registration : Registration) : Session :=
  match session.register disk registration with
  | .ok (_, after) => after
  | .error _ => session

/-- Everything that is collected, whatever the phase. -/
def collected (session : Session) : Session :=
  { session with phase := .collecting }

end Session

inductive Call where
  | register (registration : Registration)
  | beginDraining
  | drain
  | result
  | phase

inductive Answer where
  | registered (answer : Except SessionError Registration.Answer)
  | begun (answer : Except SessionError Unit)
  | drained (drained : Drained)
  | result (result? : Option AnalysisResult)
  | phase (phase : Phase)

/-- A call that was made: the aggregation and the disk before it, its answer, and the aggregation
after it. -/
structure Step where
  before : Aggregation
  disk : Disk
  call : Call
  answer : Answer
  after : Aggregation

namespace Aggregation

/-- Carries out a call. One that is refused leaves the aggregation as it is. -/
def perform (aggregation : Aggregation) (disk : Disk) : Call → Answer × Aggregation
  | .register registration =>
    match aggregation.session.register disk registration with
    | .ok (answer, session) => (.registered (.ok answer), aggregation.withSession session)
    | .error error => (.registered (.error error), aggregation)
  | .beginDraining =>
    match aggregation.beginDraining with
    | .ok after => (.begun (.ok ()), after)
    | .error error => (.begun (.error error), aggregation)
  | .drain =>
    let (drained, after) := aggregation.drainProgress disk
    (.drained drained, after)
  | .result => (.result aggregation.result?, aggregation)
  | .phase => (.phase aggregation.session.phase, aggregation)

/-- Carries out calls, each on its disk. -/
def history (aggregation : Aggregation) : List (Disk × Call) → List Step
  | [] => []
  | (disk, call) :: rest =>
    let (answer, after) := aggregation.perform disk call
    ⟨aggregation, disk, call, answer, after⟩ :: after.history rest

def run (aggregation : Aggregation) : List (Disk × Call) → Aggregation
  | [] => aggregation
  | (disk, call) :: rest => (aggregation.perform disk call).2.run rest

end Aggregation

end ScanMerge
