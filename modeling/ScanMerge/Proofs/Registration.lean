import ScanMerge.Proofs.Calls

/-!
What a registration does: it is refused once draining has begun, then refused for a module that is
not known, and otherwise adds to one collection and raises at most one warning.
-/

set_option autoImplicit false

namespace ScanMerge

def ModuleRegistration.warnings (moduleKey : String) : ModuleRegistration → List Warning
  | .new => []
  | .unchanged => []
  | .conflicting kept => [Session.moduleWarning moduleKey kept]

/-- The warnings that registering a file that can be read raises. -/
def FileRegistration.warnings (moduleKey : String) : FileRegistration → List Warning
  | .recorded record =>
    if record.wrongEncoding then [Session.encodingWarning moduleKey record] else []
  | .duplicate _ => []
  | .conflict _ found => [Session.conflictWarning moduleKey found]

namespace Session

theorem checkCollecting_of_collecting {session : Session} (collecting : session.phase = .collecting)
    (operation : Operation) : session.checkCollecting operation = .ok () := by
  simp only [checkCollecting, collecting, ↓reduceIte]

theorem checkCollecting_of_left {session : Session} (left : session.phase ≠ .collecting)
    (operation : Operation) :
    session.checkCollecting operation = .error (.lifecycle operation session.phase) := by
  simp only [checkCollecting, left, ↓reduceIte]

theorem module_of_known {session : Session} {moduleKey : String} {module : Module}
    (known : session.modules.get? moduleKey = some module) :
    session.module moduleKey = .ok module := by
  simp only [Session.module, known]

theorem module_of_unknown {session : Session} {moduleKey : String}
    (unknown : session.modules.get? moduleKey = none) :
    session.module moduleKey = .error (.unknownModule moduleKey) := by
  simp only [Session.module, unknown]

/-- The phase is looked at before the module. -/
theorem register_of_left {session : Session} (left : session.phase ≠ .collecting) (disk : Disk)
    (registration : Registration) :
    session.register disk registration =
      .error (.lifecycle registration.operation session.phase) := by
  cases registration <;>
    simp only [register, registerModule, registerArtifact, registerFile, registerMethod,
      registerTelemetry, registerDocument, checkCollecting_of_left left] <;> rfl

section Collecting

variable {session : Session} (collecting : session.phase = .collecting) (disk : Disk)

include collecting

theorem register_module (registered : Module) :
    session.register disk (.module registered) =
      .ok (.module (session.modules.register registered).1,
        { session with
          modules := (session.modules.register registered).2
          warnings := session.warnings ++
            (session.modules.register registered).1.warnings registered.key }) := by
  simp only [register, registerModule, checkCollecting_of_collecting collecting]
  rcases session.modules.register registered with ⟨answer, modules⟩
  cases answer with
  | new => simp [ModuleRegistration.warnings, bind, Except.bind, pure, Except.pure, Except.map]
  | unchanged =>
    simp [ModuleRegistration.warnings, bind, Except.bind, pure, Except.pure, Except.map]
  | conflicting kept => rfl

theorem register_unknown {registration : Registration}
    (other : registration.operation ≠ .registerModule)
    (unknown : session.modules.get? registration.moduleKey = none) :
    session.register disk registration = .error (.unknownModule registration.moduleKey) := by
  cases registration with
  | module registered => exact absurd rfl other
  | artifact _ _ _ | file _ _ | method _ _ | telemetry _ _ | document _ _ =>
    simp only [Registration.moduleKey] at unknown
    simp only [register, registerArtifact, registerFile, registerMethod, registerTelemetry,
      registerDocument, checkCollecting_of_collecting collecting, module_of_unknown unknown]
    rfl

variable {moduleKey : String} {module : Module}
  (known : session.modules.get? moduleKey = some module)

include known

theorem register_artifact (kind : ArtifactKind) (path : Path) :
    session.register disk (.artifact moduleKey kind path) =
      .ok (.done,
        { session with
          artifacts := session.artifacts.push moduleKey
            ⟨moduleKey, kind, module.root.join path⟩ }) := by
  simp only [register, registerArtifact, checkCollecting_of_collecting collecting,
    module_of_known known]
  rfl

theorem register_method (method : MethodDeclaration) :
    session.register disk (.method moduleKey method) =
      .ok (.done, { session with methods := session.methods.push moduleKey method }) := by
  simp only [register, registerMethod, checkCollecting_of_collecting collecting,
    module_of_known known]
  rfl

theorem register_telemetry (entry : TelemetryEntry) :
    session.register disk (.telemetry moduleKey entry) =
      .ok (.done, { session with telemetry := session.telemetry.push moduleKey entry }) := by
  simp only [register, registerTelemetry, checkCollecting_of_collecting collecting,
    module_of_known known]
  rfl

theorem register_document (document : Json) :
    session.register disk (.document moduleKey document) =
      .ok (.done, { session with documents := session.documents.push moduleKey document }) := by
  simp only [register, registerDocument, checkCollecting_of_collecting collecting,
    module_of_known known]
  rfl

theorem register_file_unreadable {path : Path} {error : PathError}
    (unreadable : session.files.register disk moduleKey module.root path = .error error) :
    session.register disk (.file moduleKey path) =
      .ok (.file none, session.warn (exclusionWarning moduleKey error)) := by
  simp only [register, registerFile, checkCollecting_of_collecting collecting,
    module_of_known known, unreadable, bind, Except.bind]
  rfl

theorem register_file {path : Path} {registration : FileRegistration} {files : FileIndex}
    (readable : session.files.register disk moduleKey module.root path =
      .ok (registration, files)) :
    session.register disk (.file moduleKey path) =
      .ok (.file (some registration.record),
        { session with
          files
          warnings := session.warnings ++ registration.warnings moduleKey }) := by
  simp only [register, registerFile, checkCollecting_of_collecting collecting,
    module_of_known known, readable, bind, Except.bind]
  cases registration with
  | recorded record =>
    by_cases wrong : record.wrongEncoding
    · simp only [FileRegistration.warnings, wrong, ↓reduceIte]
      rfl
    · simp [FileRegistration.warnings, FileRegistration.record, wrong, pure, Except.pure,
        Except.map]
  | duplicate record =>
    simp [FileRegistration.warnings, FileRegistration.record, pure, Except.pure, Except.map]
  | conflict kept found => rfl

end Collecting

/-- The ways in which a registration can go. -/
inductive Registers (session : Session) (disk : Disk) :
    Registration → Except SessionError (Registration.Answer × Session) → Prop
  | left {registration : Registration} (left : session.phase ≠ .collecting) :
    Registers session disk registration
      (.error (.lifecycle registration.operation session.phase))
  | unknown {registration : Registration} (collecting : session.phase = .collecting)
    (other : registration.operation ≠ .registerModule)
    (unknown : session.modules.get? registration.moduleKey = none) :
    Registers session disk registration (.error (.unknownModule registration.moduleKey))
  | module (collecting : session.phase = .collecting) (registered : Module) :
    Registers session disk (.module registered)
      (.ok (.module (session.modules.register registered).1,
        { session with
          modules := (session.modules.register registered).2
          warnings := session.warnings ++
            (session.modules.register registered).1.warnings registered.key }))
  | artifact {moduleKey : String} {module : Module} (collecting : session.phase = .collecting)
    (known : session.modules.get? moduleKey = some module) (kind : ArtifactKind) (path : Path) :
    Registers session disk (.artifact moduleKey kind path)
      (.ok (.done,
        { session with
          artifacts := session.artifacts.push moduleKey
            ⟨moduleKey, kind, module.root.join path⟩ }))
  | unreadable {moduleKey : String} {module : Module} {path : Path} {error : PathError}
    (collecting : session.phase = .collecting)
    (known : session.modules.get? moduleKey = some module)
    (unreadable : session.files.register disk moduleKey module.root path = .error error) :
    Registers session disk (.file moduleKey path)
      (.ok (.file none, session.warn (exclusionWarning moduleKey error)))
  | file {moduleKey : String} {module : Module} {path : Path} {registration : FileRegistration}
    {files : FileIndex} (collecting : session.phase = .collecting)
    (known : session.modules.get? moduleKey = some module)
    (readable : session.files.register disk moduleKey module.root path =
      .ok (registration, files)) :
    Registers session disk (.file moduleKey path)
      (.ok (.file (some registration.record),
        { session with
          files
          warnings := session.warnings ++ registration.warnings moduleKey }))
  | method {moduleKey : String} {module : Module} (collecting : session.phase = .collecting)
    (known : session.modules.get? moduleKey = some module) (method : MethodDeclaration) :
    Registers session disk (.method moduleKey method)
      (.ok (.done, { session with methods := session.methods.push moduleKey method }))
  | telemetry {moduleKey : String} {module : Module} (collecting : session.phase = .collecting)
    (known : session.modules.get? moduleKey = some module) (entry : TelemetryEntry) :
    Registers session disk (.telemetry moduleKey entry)
      (.ok (.done, { session with telemetry := session.telemetry.push moduleKey entry }))
  | document {moduleKey : String} {module : Module} (collecting : session.phase = .collecting)
    (known : session.modules.get? moduleKey = some module) (document : Json) :
    Registers session disk (.document moduleKey document)
      (.ok (.done, { session with documents := session.documents.push moduleKey document }))

theorem registers (session : Session) (disk : Disk) (registration : Registration) :
    session.Registers disk registration (session.register disk registration) := by
  by_cases collecting : session.phase = .collecting
  · by_cases first : registration.operation = .registerModule
    · cases registration with
      | module registered =>
        rw [register_module collecting]
        exact .module collecting registered
      | _ => cases first
    · cases found : session.modules.get? registration.moduleKey with
      | none =>
        rw [register_unknown collecting disk first found]
        exact .unknown collecting first found
      | some module =>
        cases registration with
        | module registered => exact absurd rfl first
        | artifact moduleKey kind path =>
          have known : session.modules.get? moduleKey = some module := found
          rw [register_artifact collecting disk known]
          exact .artifact collecting known kind path
        | file moduleKey path =>
          have known : session.modules.get? moduleKey = some module := found
          cases read : session.files.register disk moduleKey module.root path with
          | error error =>
            rw [register_file_unreadable collecting disk known read]
            exact .unreadable collecting known read
          | ok outcome =>
            rw [register_file collecting disk known read]
            exact .file collecting known read
        | method moduleKey method =>
          have known : session.modules.get? moduleKey = some module := found
          rw [register_method collecting disk known]
          exact .method collecting known method
        | telemetry moduleKey entry =>
          have known : session.modules.get? moduleKey = some module := found
          rw [register_telemetry collecting disk known]
          exact .telemetry collecting known entry
        | document moduleKey document =>
          have known : session.modules.get? moduleKey = some module := found
          rw [register_document collecting disk known]
          exact .document collecting known document
  · rw [register_of_left collecting]
    exact .left collecting

/-- The two reasons for which a registration is refused. -/
theorem register_eq_error {session : Session} {disk : Disk} {registration : Registration}
    {error : SessionError} (refused : session.register disk registration = .error error) :
    (session.phase ≠ .collecting ∧ error = .lifecycle registration.operation session.phase) ∨
      (session.phase = .collecting ∧ session.modules.get? registration.moduleKey = none ∧
        error = .unknownModule registration.moduleKey) := by
  have registers := session.registers disk registration
  rw [refused] at registers
  cases registers with
  | left left => exact .inl ⟨left, rfl⟩
  | unknown collecting _ unknown => exact .inr ⟨collecting, unknown, rfl⟩

theorem registering_of_left {session : Session} (left : session.phase ≠ .collecting) (disk : Disk)
    (registration : Registration) : session.registering disk registration = session := by
  rw [registering, register_of_left left]

@[simp] theorem phase_registering (session : Session) (disk : Disk) (registration : Registration) :
    (session.registering disk registration).phase = session.phase := by
  have registers := session.registers disk registration
  rw [registering]
  generalize session.register disk registration = outcome at registers ⊢
  cases registers <;> rfl

end Session

end ScanMerge
