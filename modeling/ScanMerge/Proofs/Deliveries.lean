import ScanMerge.Proofs.FileRecords

/-!
What a registration delivers to a session. It depends on the disk and on the module of the
registration alone, so that other modules have no part in it.
-/

set_option autoImplicit false

namespace ScanMerge

/-- What a registration delivers, a part of it for each collection of a session. -/
structure Delivery where
  module? : Option Module := none
  artifact? : Option Artifact := none
  source? : Option Source := none
  method? : Option MethodDeclaration := none
  entry? : Option TelemetryEntry := none
  document? : Option Json := none
  /-- The warnings that do not depend on the recorded files. -/
  warnings : List Warning := []

/-- The facts with what may be delivered for a module. -/
def Facts.pushAny {α : Type} (facts : Facts α) (moduleKey : String) : Option α → Facts α
  | none => facts
  | some fact => facts.push moduleKey fact

@[simp] theorem Facts.pushAny_none {α : Type} (facts : Facts α) (moduleKey : String) :
    facts.pushAny moduleKey none = facts := rfl

@[simp] theorem Facts.pushAny_some {α : Type} (facts : Facts α) (moduleKey : String) (fact : α) :
    facts.pushAny moduleKey (some fact) = facts.push moduleKey fact := rfl

theorem Facts.pushAny_comm {α : Type} (facts : Facts α) {moduleKey other : String}
    (different : moduleKey ≠ other) (fact? otherFact? : Option α) :
    (facts.pushAny moduleKey fact?).pushAny other otherFact? =
      (facts.pushAny other otherFact?).pushAny moduleKey fact? := by
  cases fact? with
  | none => rfl
  | some fact =>
    cases otherFact? with
    | none => rfl
    | some otherFact => exact facts.push_comm different fact otherFact

namespace ModuleTable

/-- The table with a module that may be delivered. -/
def takeAny (table : ModuleTable) : Option Module → ModuleTable
  | none => table
  | some module => (table.register module).2

@[simp] theorem takeAny_none (table : ModuleTable) : table.takeAny none = table := rfl

@[simp] theorem takeAny_some (table : ModuleTable) (module : Module) :
    table.takeAny (some module) = (table.register module).2 := rfl

theorem fst_register_congr {left right : ModuleTable} {module : Module}
    (same : left.get? module.key = right.get? module.key) :
    (left.register module).1 = (right.register module).1 := by
  simp only [register, same]
  cases right.get? module.key with
  | none => rfl
  | some kept => by_cases again : kept.same module <;> simp [again]

theorem snd_register (table : ModuleTable) (module : Module) :
    (table.register module).2 = table.update module.key fun present => present.getD module := by
  rw [register]
  cases found : table.get? module.key with
  | none =>
    apply KeyMap.ext_get?
    intro key
    by_cases own : key = module.key
    · rw [own, KeyMap.get?_update_self, found]
      exact KeyMap.get?_update_self table module.key _
    · rw [KeyMap.get?_update_of_ne table own]
      exact KeyMap.get?_update_of_ne table own _
  | some kept =>
    have same : table = table.update module.key fun present => present.getD module := by
      apply KeyMap.ext_get?
      intro key
      by_cases own : key = module.key
      · rw [own, KeyMap.get?_update_self, found, Option.getD_some]
      · rw [KeyMap.get?_update_of_ne table own]
    by_cases again : kept.same module
    · simp only [again, ↓reduceIte]
      exact same
    · simp only [again, Bool.false_eq_true, ↓reduceIte]
      exact same

theorem get?_takeAny_of_ne (table : ModuleTable) {module? : Option Module} {key : String}
    (other : ∀ module ∈ module?, key ≠ module.key) :
    (table.takeAny module?).get? key = table.get? key := by
  cases module? with
  | none => rfl
  | some module =>
    rw [takeAny, snd_register]
    exact KeyMap.get?_update_of_ne table (other module rfl) _

theorem takeAny_comm (table : ModuleTable) {first? second? : Option Module}
    (different : ∀ first ∈ first?, ∀ second ∈ second?, first.key ≠ second.key) :
    (table.takeAny first?).takeAny second? = (table.takeAny second?).takeAny first? := by
  cases first? with
  | none => rfl
  | some first =>
    cases second? with
    | none => rfl
    | some second =>
      simp only [takeAny, snd_register]
      exact table.update_comm (different first rfl second rfl) _ _

end ModuleTable

namespace Session

def delivery (session : Session) (disk : Disk) (registration : Registration) : Delivery :=
  match registration with
  | .module registered =>
    { module? := some registered
      warnings := (session.modules.register registered).1.warnings registered.key }
  | .artifact moduleKey kind path =>
    { artifact? := (session.modules.get? moduleKey).map fun module =>
        ⟨moduleKey, kind, module.root.join path⟩ }
  | .file moduleKey path =>
    match (session.modules.get? moduleKey).map fun module => disk.source module.root path with
    | none => {}
    | some (.error error) => { warnings := [exclusionWarning moduleKey error] }
    | some (.ok source) => { source? := some source }
  | .method moduleKey method =>
    { method? := (session.modules.get? moduleKey).map fun _ => method }
  | .telemetry moduleKey entry =>
    { entry? := (session.modules.get? moduleKey).map fun _ => entry }
  | .document moduleKey document =>
    { document? := (session.modules.get? moduleKey).map fun _ => document }

def accept (session : Session) (moduleKey : String) (delivery : Delivery) : Session :=
  { session with
    modules := session.modules.takeAny delivery.module?
    artifacts := session.artifacts.pushAny moduleKey delivery.artifact?
    methods := session.methods.pushAny moduleKey delivery.method?
    telemetry := session.telemetry.pushAny moduleKey delivery.entry?
    documents := session.documents.pushAny moduleKey delivery.document?
    files := (session.files.takeAny moduleKey delivery.source?).1
    warnings := session.warnings ++
      (delivery.warnings ++ (session.files.takeAny moduleKey delivery.source?).2) }

/-- Registering accepts what is delivered. -/
theorem registering_of_collecting {session : Session} (collecting : session.phase = .collecting)
    (disk : Disk) (registration : Registration) :
    session.registering disk registration =
      session.accept registration.moduleKey (session.delivery disk registration) := by
  have registers := session.registers disk registration
  rw [registering]
  generalize session.register disk registration = outcome at registers ⊢
  cases registers with
  | left left => exact absurd collecting left
  | unknown _ other unknown =>
    cases registration with
    | module registered => exact absurd rfl other
    | artifact _ _ _ | file _ _ | method _ _ | telemetry _ _ | document _ _ =>
      simp only [Registration.moduleKey] at unknown
      simp [delivery, unknown, accept]
  | module _ registered =>
    simp [delivery, accept]
  | @unreadable moduleKey module path error _ known unreadable =>
    have failed := FileIndex.source_of_register_error unreadable
    simp [delivery, known, failed, accept, warn]
  | @file moduleKey module path registration files _ known readable =>
    obtain ⟨source, found, registered⟩ := FileIndex.source_of_register_ok readable
    simp [delivery, known, found, accept, registered, Registration.moduleKey]
  | artifact _ known kind path | method _ known method | telemetry _ known entry
  | document _ known document =>
    simp [delivery, known, accept]
    try rfl

section Delivery

variable {session : Session} {disk : Disk} {registration : Registration}

/-- Only the module of the registration matters. -/
theorem delivery_congr {other : Session}
    (same : session.modules.get? registration.moduleKey =
      other.modules.get? registration.moduleKey) :
    session.delivery disk registration = other.delivery disk registration := by
  cases registration with
  | module registered =>
    have answer := ModuleTable.fst_register_congr same
    simp only [delivery, answer]
  | artifact _ _ _ | file _ _ | method _ _ | telemetry _ _ | document _ _ =>
    simp only [Registration.moduleKey] at same
    simp only [delivery, same]

theorem key_of_delivered {module : Module}
    (delivered : module ∈ (session.delivery disk registration).module?) :
    module.key = registration.moduleKey := by
  cases registration with
  | module registered =>
    cases delivered
    rfl
  | file moduleKey path =>
    simp only [delivery] at delivered
    split at delivered <;> cases delivered
  | artifact _ _ _ | method _ _ | telemetry _ _ | document _ _ => cases delivered

theorem genuine_of_delivered (working : disk.working.Proper) {source : Source}
    (delivered : source ∈ (session.delivery disk registration).source?) :
    source.Genuine disk := by
  cases registration with
  | file moduleKey path =>
    simp only [delivery] at delivered
    split at delivered
    · cases delivered
    · cases delivered
    · next found =>
      cases delivered
      obtain ⟨module, -, found⟩ := Option.map_eq_some_iff.mp found
      exact Disk.genuine_source working found
  | module _ | artifact _ _ _ | method _ _ | telemetry _ _ | document _ _ => cases delivered

theorem delivery_accept_of_ne {moduleKey : String} {delivered : Delivery}
    (own : ∀ module ∈ delivered.module?, module.key = moduleKey)
    (other : registration.moduleKey ≠ moduleKey) :
    (session.accept moduleKey delivered).delivery disk registration =
      session.delivery disk registration := by
  apply delivery_congr
  apply ModuleTable.get?_takeAny_of_ne
  intro module member
  rw [own module member]
  exact other

end Delivery

/-- The session is still collecting, and its files come from a disk. -/
structure Faithful (session : Session) (disk : Disk) : Prop where
  collecting : session.phase = .collecting
  files : session.files.Faithful disk

theorem faithful_ofSettings (settings : Settings) (disk : Disk) :
    (ofSettings settings).Faithful disk :=
  ⟨rfl, FileIndex.faithful_ofSettings settings disk⟩

theorem Faithful.accept {session : Session} {disk : Disk} (faithful : session.Faithful disk)
    (moduleKey : String) {delivery : Delivery}
    (genuine : ∀ source ∈ delivery.source?, source.Genuine disk) :
    (session.accept moduleKey delivery).Faithful disk :=
  ⟨faithful.collecting, faithful.files.takeAny moduleKey genuine⟩

/-- The sessions differ at most in which module registered a file first, and in the order of the
warnings. -/
structure Similar (left right : Session) : Prop where
  phase : left.phase = right.phase
  modules : left.modules = right.modules
  artifacts : left.artifacts = right.artifacts
  methods : left.methods = right.methods
  telemetry : left.telemetry = right.telemetry
  documents : left.documents = right.documents
  files : left.files.Similar right.files
  warnings : (left.warnings.map Warning.anonymous).Perm (right.warnings.map Warning.anonymous)

theorem Similar.refl (session : Session) : session.Similar session :=
  ⟨rfl, rfl, rfl, rfl, rfl, rfl, .refl _, .refl _⟩

theorem Similar.symm {left right : Session} (similar : left.Similar right) :
    right.Similar left where
  phase := similar.phase.symm
  modules := similar.modules.symm
  artifacts := similar.artifacts.symm
  methods := similar.methods.symm
  telemetry := similar.telemetry.symm
  documents := similar.documents.symm
  files := similar.files.symm
  warnings := similar.warnings.symm

theorem Similar.trans {first second third : Session} (before : first.Similar second)
    (after : second.Similar third) : first.Similar third where
  phase := before.phase.trans after.phase
  modules := before.modules.trans after.modules
  artifacts := before.artifacts.trans after.artifacts
  methods := before.methods.trans after.methods
  telemetry := before.telemetry.trans after.telemetry
  documents := before.documents.trans after.documents
  files := before.files.trans after.files
  warnings := before.warnings.trans after.warnings

/-- Similar sessions accept a delivery alike. -/
theorem Similar.accept {left right : Session} {disk : Disk} (similar : left.Similar right)
    (leftFaithful : left.Faithful disk) (rightFaithful : right.Faithful disk) (moduleKey : String)
    {delivery : Delivery} (genuine : ∀ source ∈ delivery.source?, source.Genuine disk) :
    (left.accept moduleKey delivery).Similar (right.accept moduleKey delivery) := by
  obtain ⟨files, raised⟩ :=
    similar.files.takeAny leftFaithful.files rightFaithful.files moduleKey genuine
  constructor
  case phase => exact similar.phase
  case modules => simp only [Session.accept, similar.modules]
  case artifacts => simp only [Session.accept, similar.artifacts]
  case methods => simp only [Session.accept, similar.methods]
  case telemetry => simp only [Session.accept, similar.telemetry]
  case documents => simp only [Session.accept, similar.documents]
  case files => exact files
  case warnings =>
    simp only [Session.accept, raised, List.map_append]
    exact similar.warnings.append_right _

/-- Deliveries for different modules can be accepted in either order. -/
theorem Faithful.accept_comm {session : Session} {disk : Disk} (faithful : session.Faithful disk)
    {firstKey secondKey : String} (different : firstKey ≠ secondKey) {first second : Delivery}
    (firstOwn : ∀ module ∈ first.module?, module.key = firstKey)
    (secondOwn : ∀ module ∈ second.module?, module.key = secondKey)
    (firstGenuine : ∀ source ∈ first.source?, source.Genuine disk)
    (secondGenuine : ∀ source ∈ second.source?, source.Genuine disk) :
    ((session.accept firstKey first).accept secondKey second).Similar
      ((session.accept secondKey second).accept firstKey first) := by
  obtain ⟨files, raised⟩ :=
    faithful.files.takeBoth_comm firstKey secondKey firstGenuine secondGenuine
  constructor
  case phase => rfl
  case modules =>
    apply ModuleTable.takeAny_comm
    intro module member other otherMember
    rw [firstOwn module member, secondOwn other otherMember]
    exact different
  case artifacts => exact Facts.pushAny_comm _ different _ _
  case methods => exact Facts.pushAny_comm _ different _ _
  case telemetry => exact Facts.pushAny_comm _ different _ _
  case documents => exact Facts.pushAny_comm _ different _ _
  case files => exact files
  case warnings =>
    have gather : ∀ own raised other later : List Warning,
        (own ++ (raised ++ (other ++ later))).Perm ((own ++ other) ++ (raised ++ later)) := by
      intro own raised other later
      rw [List.append_assoc own]
      exact (List.perm_append_comm_assoc raised other later).append_left own
    rw [FileIndex.takeBoth, FileIndex.takeBoth, List.map_append, List.map_append] at raised
    simp only [Session.accept, List.map_append, List.append_assoc]
    refine List.Perm.append_left _ ?_
    exact (gather _ _ _ _).trans
      ((List.perm_append_comm.append raised).trans (gather _ _ _ _).symm)

end Session

end ScanMerge
