import ScanMerge.Proofs.RecordedDigests
import ScanMerge.Proofs.Repetitions

/-!
Registrations that are made again. What a session has already can be registered any number of times
without a trace in what is published, except for figures and warnings that come with importing an
artifact again.
-/

set_option autoImplicit false

namespace ScanMerge

namespace ModuleTable

theorem register_of_same {table : ModuleTable} {module kept : Module}
    (known : table.get? module.key = some kept) (same : kept.same module = true) :
    table.register module = (.unchanged, table) := by
  simp only [register, known, same, ↓reduceIte]

end ModuleTable

namespace Session

/-- What is registered is there already. A file is there when its path is recorded with its digest,
whichever module registered it. -/
def Has (session : Session) (disk : Disk) : Registration → Prop
  | .module module =>
    ∃ kept, session.modules.get? module.key = some kept ∧ kept.same module = true
  | .artifact moduleKey kind path =>
    ∃ module, session.modules.get? moduleKey = some module ∧
      ⟨moduleKey, kind, module.root.join path⟩ ∈ session.artifacts.of moduleKey
  | .file moduleKey path =>
    ∃ module source record, session.modules.get? moduleKey = some module ∧
      disk.source module.root path = .ok source ∧
      session.files.find? source.path = some record ∧ record.hash = digest source.content
  | .method moduleKey method => method ∈ session.methods.of moduleKey
  | .telemetry moduleKey entry => entry ∈ session.telemetry.of moduleKey
  | .document moduleKey document => document ∈ session.documents.of moduleKey

/-- The later list of registrations is the earlier one with retries: among them are registrations of
what the session, led by the earlier list, has by then. -/
inductive Retries : Session → List (Disk × Registration) → List (Disk × Registration) → Prop
  | done (session : Session) : Retries session [] []
  | next {session : Session} {disk : Disk} {registration : Registration}
    {rest retried : List (Disk × Registration)}
    (retries : Retries (session.registering disk registration) rest retried) :
    Retries session ((disk, registration) :: rest) ((disk, registration) :: retried)
  | again {session : Session} {disk : Disk} {registration : Registration}
    {rest retried : List (Disk × Registration)} (has : session.Has disk registration)
    (retries : Retries session rest retried) :
    Retries session rest ((disk, registration) :: retried)

/-- The other session has facts of the session again, and is the same otherwise. -/
structure Absorbs (session retried : Session) : Prop where
  same : retried =
    { session with
      artifacts := retried.artifacts
      methods := retried.methods
      telemetry := retried.telemetry
      documents := retried.documents }
  artifacts : session.artifacts.Repeats retried.artifacts
  methods : session.methods.Repeats retried.methods
  telemetry : session.telemetry.Repeats retried.telemetry
  documents : session.documents.Repeats retried.documents

theorem Absorbs.refl (session : Session) : session.Absorbs session :=
  ⟨rfl, .refl _, .refl _, .refl _, .refl _⟩

/-- All that is delivered is there already. -/
structure HasDelivery (session : Session) (moduleKey : String) (delivery : Delivery) : Prop where
  modules : session.modules.takeAny delivery.module? = session.modules
  files : session.files.takeAny moduleKey delivery.source? = (session.files, [])
  warnings : delivery.warnings = []
  artifacts : ∀ artifact ∈ delivery.artifact?, artifact ∈ session.artifacts.of moduleKey
  methods : ∀ method ∈ delivery.method?, method ∈ session.methods.of moduleKey
  telemetry : ∀ entry ∈ delivery.entry?, entry ∈ session.telemetry.of moduleKey
  documents : ∀ document ∈ delivery.document?, document ∈ session.documents.of moduleKey

theorem Has.delivery {session : Session} {disk : Disk} {registration : Registration}
    (has : session.Has disk registration) (agrees : session.files.Agrees) :
    session.HasDelivery registration.moduleKey (session.delivery disk registration) := by
  cases registration with
  | module registered =>
    obtain ⟨kept, known, same⟩ := has
    have unchanged := ModuleTable.register_of_same known same
    constructor <;> simp [Session.delivery, unchanged, ModuleRegistration.warnings]
  | artifact moduleKey kind path =>
    obtain ⟨module, known, member⟩ := has
    constructor <;> simp [Session.delivery, known, Registration.moduleKey, member]
  | file moduleKey path =>
    obtain ⟨module, source, record, known, found, recorded, same⟩ := has
    have unchanged := agrees.registerContent_of_same moduleKey recorded same
    constructor <;> simp [Session.delivery, known, found, Registration.moduleKey, unchanged,
      FileRegistration.warnings]
  | method moduleKey method =>
    have member : method ∈ session.methods.of moduleKey := has
    constructor <;> simp [Session.delivery, Registration.moduleKey, member]
  | telemetry moduleKey entry =>
    have member : entry ∈ session.telemetry.of moduleKey := has
    constructor <;> simp [Session.delivery, Registration.moduleKey, member]
  | document moduleKey document =>
    have member : document ∈ session.documents.of moduleKey := has
    constructor <;> simp [Session.delivery, Registration.moduleKey, member]

section Absorbs

variable {session retried : Session} (absorbs : session.Absorbs retried)

include absorbs

theorem Absorbs.accept (moduleKey : String) (delivery : Delivery) :
    (session.accept moduleKey delivery).Absorbs (retried.accept moduleKey delivery) := by
  obtain ⟨same, artifacts, methods, telemetry, documents⟩ := absorbs
  constructor
  case same =>
    rw [same]
    rfl
  case artifacts => exact artifacts.pushAny _ _
  case methods => exact methods.pushAny _ _
  case telemetry => exact telemetry.pushAny _ _
  case documents => exact documents.pushAny _ _

theorem Absorbs.accept_again {moduleKey : String} {delivery : Delivery}
    (has : session.HasDelivery moduleKey delivery) :
    session.Absorbs (retried.accept moduleKey delivery) := by
  obtain ⟨same, artifacts, methods, telemetry, documents⟩ := absorbs
  constructor
  case same =>
    rw [same]
    simp [Session.accept, has.modules, has.files, has.warnings]
  case artifacts => exact artifacts.pushAny_again has.artifacts
  case methods => exact methods.pushAny_again has.methods
  case telemetry => exact telemetry.pushAny_again has.telemetry
  case documents => exact documents.pushAny_again has.documents

theorem Absorbs.phase : retried.phase = session.phase := by
  rw [absorbs.same]

theorem Absorbs.delivery (disk : Disk) (registration : Registration) :
    retried.delivery disk registration = session.delivery disk registration := by
  apply delivery_congr
  rw [absorbs.same]

variable (collecting : session.phase = .collecting) (disk : Disk) (registration : Registration)

include collecting

theorem Absorbs.registering :
    (session.registering disk registration).Absorbs (retried.registering disk registration) := by
  rw [registering_of_collecting collecting,
    registering_of_collecting (absorbs.phase.trans collecting), absorbs.delivery]
  exact absorbs.accept _ _

/-- A registration of what is there leaves the session as it was. -/
theorem Absorbs.registering_again (agrees : session.files.Agrees)
    (has : session.Has disk registration) :
    session.Absorbs (retried.registering disk registration) := by
  rw [registering_of_collecting (absorbs.phase.trans collecting), absorbs.delivery]
  exact absorbs.accept_again (has.delivery agrees)

end Absorbs

/-- Retries are absorbed wherever they stand. -/
theorem Retries.absorbs {session retried : Session}
    {registrations more : List (Disk × Registration)}
    (retries : session.Retries registrations more) (absorbs : session.Absorbs retried)
    (collecting : session.phase = .collecting) (agrees : session.files.Agrees) :
    (session.registeringEach registrations).Absorbs (retried.registeringEach more) := by
  induction retries generalizing retried with
  | done => exact absorbs
  | @next session disk registration rest more retries ih =>
    apply ih (absorbs.registering collecting disk registration)
    · rw [phase_registering, collecting]
    · exact agrees_registering agrees disk registration
  | @again session disk registration rest more has retries ih =>
    -- Only the other session moves here; this one stands still and keeps what it has.
    exact ih (absorbs.registering_again collecting disk registration agrees has) collecting agrees

end Session

/-! ### Results -/

/-- The other result shows nothing of the retries but what comes of importing artifacts again: their
figures, and the warnings of importing, which follow those raised while collecting. -/
structure AnalysisResult.Absorbs (collected : List Warning) (result retried : AnalysisResult) :
    Prop where
  findings : retried.findings = result.findings
  files : retried.files = result.files
  conflicts : retried.conflicts = result.conflicts
  telemetry : retried.telemetry = result.telemetry
  methodDeclarations : retried.methodDeclarations = result.methodDeclarations
  summary : retried.summary = result.summary
  modules : retried.figures.modules = result.figures.modules
  filesRecorded : retried.figures.filesRecorded = result.figures.filesRecorded
  filesExcluded : retried.figures.filesExcluded = result.figures.filesExcluded
  totalFindings : retried.figures.totalFindings = result.figures.totalFindings
  artifactsRegistered : result.figures.artifactsRegistered ≤ retried.figures.artifactsRegistered
  artifactsImported : result.figures.artifactsImported ≤ retried.figures.artifactsImported
  artifactsFailed : result.figures.artifactsFailed ≤ retried.figures.artifactsFailed
  findingsFiltered : result.figures.findingsFiltered ≤ retried.figures.findingsFiltered
  duplicatesDropped : result.figures.duplicatesDropped ≤ retried.figures.duplicatesDropped
  warnings : ∃ skipped skippedAgain imported importedAgain,
    result.warnings = collected ++ skipped ++ imported ∧
    retried.warnings = collected ++ skippedAgain ++ importedAgain ∧
    Repeats skipped skippedAgain ∧ Repeats imported importedAgain

/-- Both outcomes are results, or both are failures. -/
inductive DrainAbsorbs (collected : List Warning) :
    Except DrainError AnalysisResult → Except DrainError AnalysisResult → Prop
  | result {result retried : AnalysisResult} (absorbs : result.Absorbs collected retried) :
    DrainAbsorbs collected (.ok result) (.ok retried)
  | failure {error retried : NoValidArtifacts} {skipped skippedAgain : List Warning}
    (registered : error.registered ≤ retried.registered) (failed : error.failed ≤ retried.failed)
    (warnings : error.warnings = collected ++ skipped)
    (warningsAgain : retried.warnings = collected ++ skippedAgain)
    (repeats : Repeats skipped skippedAgain) :
    DrainAbsorbs collected (.error (.noValidArtifacts error)) (.error (.noValidArtifacts retried))

namespace Published

variable {session retried : Session} (absorbs : session.Absorbs retried) (registry : Registry)
  (disk : Disk)

include absorbs

theorem telemetry_of_absorbs (findings : List Finding) :
    Merge.telemetry retried findings = Merge.telemetry session findings := by
  refine (Merge.ascends_telemetry _ _).eq_of_lists (Merge.ascends_telemetry _ _) ?_
  intro key value
  simp only [Merge.lists_telemetry, absorbs.telemetry.all.mem_iff,
    absorbs.documents.all.mem_iff]

theorem placed_of_absorbs : placed retried disk = placed session disk := by
  rw [absorbs.same]
  rfl

theorem filtered_of_absorbs : filtered retried disk = filtered session disk := by
  rw [absorbs.same]
  rfl

theorem findingsOf_of_absorbs : findingsOf retried disk = findingsOf session disk := by
  rw [absorbs.same]
  rfl

theorem result_of_absorbs :
    (result session registry disk session.artifacts.all).Absorbs session.warnings
      (result retried registry disk retried.artifacts.all) := by
  have modules : retried.modules = session.modules := by rw [absorbs.same]
  have files : retried.files = session.files := by rw [absorbs.same]
  have warnings : retried.warnings = session.warnings := by rw [absorbs.same]
  have artifacts := absorbs.artifacts.all
  have skipped := skipped_of_repeats registry disk artifacts
  have repeats := contributions_of_repeats registry disk artifacts
  have findings : findingsOf retried disk (contributions registry disk retried.artifacts.all) =
      findingsOf session disk (contributions registry disk session.artifacts.all) := by
    rw [findingsOf_of_absorbs absorbs, findingsOf_of_repeats repeats]
  constructor
  case findings => exact findings
  case files => simp only [result, files]
  case conflicts => simp only [result, files]
  case telemetry =>
    simp only [result, findings]
    exact telemetry_of_absorbs absorbs _
  case methodDeclarations =>
    simp only [result, modules]
    exact ModuleMethods.ofFacts_of_repeats absorbs.methods _
  case summary => simp only [result, findings]
  case modules => simp only [result, modules]
  case filesRecorded => simp only [result, files]
  case filesExcluded => simp only [result, files]
  case totalFindings => simp only [result, findings]
  case artifactsRegistered => exact artifacts.sublist.length_le
  case artifactsImported => exact repeats.sublist.length_le
  case artifactsFailed => exact skipped.sublist.length_le
  case findingsFiltered =>
    simp only [result, filtered_of_absorbs absorbs]
    exact (filtered_of_repeats repeats session disk).length_le
  case duplicatesDropped =>
    simp only [result, placed_of_absorbs absorbs]
    exact length_repeated_of_repeats repeats session disk
  case warnings =>
    refine ⟨_, _, _, _, rfl, ?_, skipped, importWarnings_of_repeats repeats⟩
    simp only [result, warnings]

/-- What a session absorbs does not show in its outcome. -/
theorem outcome_of_absorbs :
    DrainAbsorbs session.warnings
      ((outcome session registry disk session.artifacts.all).mapError .noValidArtifacts)
      ((outcome retried registry disk retried.artifacts.all).mapError .noValidArtifacts) := by
  have artifacts := absorbs.artifacts.all
  have skipped := skipped_of_repeats registry disk artifacts
  have repeats := contributions_of_repeats registry disk artifacts
  have warnings : retried.warnings = session.warnings := by rw [absorbs.same]
  have empty : (contributions registry disk retried.artifacts.all).isEmpty =
      (contributions registry disk session.artifacts.all).isEmpty := repeats.isEmpty
  rw [outcome, outcome, empty]
  split
  · exact .failure artifacts.sublist.length_le skipped.sublist.length_le rfl
      (by rw [warnings]) skipped
  · exact .result (result_of_absorbs absorbs registry disk)

end Published

namespace Aggregation

/-- Registrations that are made again, later and any number of times, do not change what a draining
publishes. -/
theorem retries_absorbed {settings : Settings} {registry : Registry} {calls : List (Disk × Call)}
    (collecting : ((start settings registry).run calls).session.phase = .collecting)
    {registrations retried : List (Disk × Registration)}
    (retries : ((start settings registry).run calls).session.Retries registrations retried)
    (disk : Disk) :
    DrainAbsorbs
      (((start settings registry).run calls).session.registeringEach registrations).warnings
      (((start settings registry).run calls).outcomeAfter registrations disk)
      (((start settings registry).run calls).outcomeAfter retried disk) := by
  have coherent := coherent_run (coherent_start settings registry) calls
  have agrees := agrees_run settings registry calls
  have absorbs := retries.absorbs (Session.Absorbs.refl _) collecting agrees
  rw [outcomeAfter_eq coherent collecting, outcomeAfter_eq coherent collecting]
  exact Published.outcome_of_absorbs absorbs _ disk

/-- A report of a module is registered once. -/
def oneReport : List (Disk × Registration) :=
  [(oneReportDisk, .artifact "App" .telemetryJson ⟨[0x74]⟩)]

def oneReportAgain : List (Disk × Registration) :=
  oneReport ++ (oneReportDisk, .module ⟨"App", ⟨[0x2F]⟩, .main⟩) :: oneReport

theorem retries_absorbed_report_again :
    ∃ result,
      ((start {} (Registry.standard {})).run rootCalls).outcomeAfter oneReportAgain oneReportDisk =
        .ok result ∧
      result.findings = [{ Finding.telemetry "App" "a" "1" with projectType := .main }] := by
  have coherent := coherent_run (coherent_start {} (Registry.standard {})) rootCalls
  have contributions : Published.contributions (Registry.standard {}) oneReportDisk
      [⟨"App", .telemetryJson, ⟨[0x2F, 0x74]⟩⟩] =
        [(⟨"App", .telemetryJson, ⟨[0x2F, 0x74]⟩⟩, ⟨[.telemetry "App" "a" "1"], [], []⟩)] := by
    rw [Published.contributions, List.filterMap_cons, import_oneReport]
    rfl
  have once : ((start {} (Registry.standard {})).run rootCalls).outcomeAfter oneReport
      oneReportDisk = .ok (Published.result
        (((start {} (Registry.standard {})).run rootCalls).session.registeringEach oneReport)
        (Registry.standard {}) oneReportDisk [⟨"App", .telemetryJson, ⟨[0x2F, 0x74]⟩⟩]) := by
    rw [outcomeAfter_eq coherent rfl, registry_run]
    exact congrArg (Except.mapError DrainError.noValidArtifacts)
      (Published.outcome_of_importable _ ⟨_, List.mem_singleton_self _, _, import_oneReport⟩)
  have retries : ((start {} (Registry.standard {})).run rootCalls).session.Retries oneReport
      oneReportAgain := by
    apply Session.Retries.next
    apply Session.Retries.again
    · exact ⟨_, rfl, rfl⟩
    apply Session.Retries.again
    · exact ⟨_, rfl, List.mem_singleton_self _⟩
    exact .done _
  have absorbs := retries_absorbed rfl retries oneReportDisk
  rw [once] at absorbs
  generalize ((start {} (Registry.standard {})).run rootCalls).outcomeAfter oneReportAgain
    oneReportDisk = outcome at absorbs ⊢
  cases absorbs with
  | result absorbs =>
    refine ⟨_, rfl, ?_⟩
    rw [absorbs.findings]
    simp only [Published.result, contributions]
    rfl

end Aggregation

end ScanMerge
