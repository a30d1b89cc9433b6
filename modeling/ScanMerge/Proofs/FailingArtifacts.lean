import ScanMerge.Proofs.Deliveries
import ScanMerge.Proofs.PublishedResult
import Mathlib.Data.List.Forall2

/-!
Artifacts that cannot be imported. Wherever one is registered, it only adds a warning and counts as
registered and failed; a draining fails only when every artifact is such.
-/

set_option autoImplicit false

namespace ScanMerge

/-! ### One fact more -/

namespace Facts

variable {α : Type} {fact : α} {moduleKey : String} {facts more : Facts α}

/-- The facts with one more, somewhere among those of its module. -/
def Inserts (fact : α) (moduleKey : String) (facts more : Facts α) : Prop :=
  ∃ earlier later, facts.of moduleKey = earlier ++ later ∧
    more = KeyMap.update facts moduleKey fun _ => earlier ++ fact :: later

theorem inserts_push (facts : Facts α) (moduleKey : String) (fact : α) :
    facts.Inserts fact moduleKey (facts.push moduleKey fact) := by
  refine ⟨facts.of moduleKey, [], (List.append_nil _).symm, ?_⟩
  apply KeyMap.ext_get?
  intro key
  by_cases own : key = moduleKey
  · subst own
    rw [push, KeyMap.get?_update_self, KeyMap.get?_update_self, of]
  · rw [push, KeyMap.get?_update_of_ne facts own, KeyMap.get?_update_of_ne facts own]

/-- What is registered later comes after the fact, or belongs to another module. -/
theorem Inserts.push (inserts : facts.Inserts fact moduleKey more) (other : String) (value : α) :
    (facts.push other value).Inserts fact moduleKey (more.push other value) := by
  obtain ⟨earlier, later, split, rfl⟩ := inserts
  by_cases own : other = moduleKey
  · subst own
    refine ⟨earlier, later ++ [value], ?_, ?_⟩
    · rw [of_push_self, split, List.append_assoc]
    · apply KeyMap.ext_get?
      intro key
      by_cases same : key = other
      · subst same
        simp [Facts.push]
      · simp [Facts.push, KeyMap.get?_update_of_ne _ same]
  · refine ⟨earlier, later, ?_, ?_⟩
    · rw [of_push_of_ne facts (Ne.symm own), split]
    · exact KeyMap.update_comm facts (Ne.symm own) _ _

theorem Inserts.pushAny (inserts : facts.Inserts fact moduleKey more) (other : String)
    (value? : Option α) :
    (facts.pushAny other value?).Inserts fact moduleKey (more.pushAny other value?) := by
  cases value? with
  | none => exact inserts
  | some value => exact inserts.push other value

theorem Inserts.all (inserts : facts.Inserts fact moduleKey more) :
    ∃ before after, facts.all = before ++ after ∧ more.all = before ++ fact :: after := by
  obtain ⟨earlier, later, split, rfl⟩ := inserts
  obtain ⟨below, above, all, updated⟩ := facts.exists_all_update moduleKey
  refine ⟨below ++ earlier, later ++ above, ?_, ?_⟩
  · rw [all, split]
    simp only [List.append_assoc]
  · rw [updated]
    simp only [List.append_assoc, List.cons_append]

end Facts

namespace Session

/-- The other session has one artifact more, and is the same otherwise. -/
def Gains (artifact : Artifact) (session more : Session) : Prop :=
  ∃ artifacts, session.artifacts.Inserts artifact artifact.moduleKey artifacts ∧
    more = { session with artifacts }

section Gains

variable {artifact : Artifact} {session more : Session}

theorem gains_registering (collecting : session.phase = .collecting) {moduleKey : String}
    {module : Module} (known : session.modules.get? moduleKey = some module) (disk : Disk)
    (kind : ArtifactKind) (path : Path) :
    session.Gains ⟨moduleKey, kind, module.root.join path⟩
      (session.registering disk (.artifact moduleKey kind path)) := by
  rw [registering, register_artifact collecting disk known]
  exact ⟨_, Facts.inserts_push _ _ _, rfl⟩

/-- A registration does the same to both sessions. -/
theorem Gains.registering (gains : session.Gains artifact more)
    (collecting : session.phase = .collecting) (disk : Disk) (registration : Registration) :
    (session.registering disk registration).Gains artifact
      (more.registering disk registration) := by
  obtain ⟨artifacts, inserts, rfl⟩ := gains
  have delivered : Session.delivery { session with artifacts } disk registration =
      session.delivery disk registration := delivery_congr rfl
  have still : Session.phase { session with artifacts } = .collecting := collecting
  rw [registering_of_collecting collecting, registering_of_collecting still, delivered]
  exact ⟨_, inserts.pushAny _ _, rfl⟩

theorem Gains.registeringEach (gains : session.Gains artifact more)
    (collecting : session.phase = .collecting) (registrations : List (Disk × Registration)) :
    (session.registeringEach registrations).Gains artifact
      (more.registeringEach registrations) := by
  induction registrations generalizing session more with
  | nil => exact gains
  | cons first rest ih =>
    obtain ⟨disk, registration⟩ := first
    apply ih (gains.registering collecting disk registration)
    rw [phase_registering, collecting]

end Gains

end Session

/-- The other result has one skipped artifact more, and is the same otherwise. -/
def AnalysisResult.SkipsOneMore (artifact : Artifact) (error : ImportError)
    (result more : AnalysisResult) : Prop :=
  ∃ before after, result.warnings = before ++ after ∧
    more =
      { result with
        figures :=
          { result.figures with
            artifactsRegistered := result.figures.artifactsRegistered + 1
            artifactsFailed := result.figures.artifactsFailed + 1 }
        warnings := before ++ Published.skippedWarning artifact error :: after }

namespace Published

section Fails

variable {registry : Registry} {disk : Disk} {artifact : Artifact} {error : ImportError}
  (fails : registry.importArtifact disk artifact = .error error)

include fails

theorem contributions_of_fails (before after : List Artifact) :
    contributions registry disk (before ++ artifact :: after) =
      contributions registry disk (before ++ after) := by
  simp only [contributions, List.filterMap_append, List.filterMap_cons, fails]
  rfl

theorem skipped_of_fails (before after : List Artifact) :
    skipped registry disk (before ++ artifact :: after) =
      skipped registry disk before ++ skippedWarning artifact error ::
        skipped registry disk after := by
  simp only [skipped, List.filterMap_append, List.filterMap_cons, fails]

theorem result_of_fails (session : Session) (before after : List Artifact) :
    (result session registry disk (before ++ after)).SkipsOneMore artifact error
      (result session registry disk (before ++ artifact :: after)) := by
  have joined : skipped registry disk (before ++ after) =
      skipped registry disk before ++ skipped registry disk after := List.filterMap_append
  refine ⟨session.warnings ++ skipped registry disk before,
    skipped registry disk after ++
      importWarnings (contributions registry disk (before ++ after)), ?_, ?_⟩
  · simp only [result, joined, List.append_assoc]
  · simp only [result, contributions_of_fails fails, skipped_of_fails fails, joined,
      List.length_append, List.length_cons, List.append_assoc, List.cons_append, Nat.add_assoc]

/-- Where another artifact is imported, one that fails only adds its warning. -/
theorem outcome_of_gains {session more : Session} (gains : session.Gains artifact more)
    (importable : ∃ other ∈ session.artifacts.all, ∃ contribution,
      registry.importArtifact disk other = .ok contribution) :
    ∃ result fuller, outcome session registry disk session.artifacts.all = .ok result ∧
      outcome more registry disk more.artifacts.all = .ok fuller ∧
      result.SkipsOneMore artifact error fuller := by
  obtain ⟨artifacts, inserts, rfl⟩ := gains
  obtain ⟨before, after, all, moreAll⟩ := inserts.all
  have still : ∃ other ∈ artifacts.all, ∃ contribution,
      registry.importArtifact disk other = .ok contribution := by
    obtain ⟨other, member, imports⟩ := importable
    rw [all] at member
    refine ⟨other, ?_, imports⟩
    rw [moreAll]
    rcases List.mem_append.mp member with member | member
    · exact List.mem_append_left _ member
    · exact List.mem_append_right _ (List.mem_cons_of_mem _ member)
  refine ⟨_, _, outcome_of_importable session importable, outcome_of_importable _ still, ?_⟩
  rw [all, moreAll]
  exact result_of_fails fails session before after

end Fails

/-- The warnings stand for the artifacts one by one, none of which can be imported. -/
def SkipsAll (registry : Registry) (disk : Disk) (artifacts : List Artifact)
    (warnings : List Warning) : Prop :=
  List.Forall₂ (fun artifact warning => ∃ error,
    registry.importArtifact disk artifact = .error error ∧
      warning = skippedWarning artifact error) artifacts warnings

theorem skipsAll_skipped {registry : Registry} {disk : Disk} {artifacts : List Artifact}
    (fail : ∀ artifact ∈ artifacts, ∃ error,
      registry.importArtifact disk artifact = .error error) :
    SkipsAll registry disk artifacts (skipped registry disk artifacts) := by
  induction artifacts with
  | nil => exact .nil
  | cons artifact rest ih =>
    obtain ⟨error, fails⟩ := fail artifact List.mem_cons_self
    have others := ih fun other member => fail other (List.mem_cons_of_mem _ member)
    have warned : skipped registry disk (artifact :: rest) =
        skippedWarning artifact error :: skipped registry disk rest :=
      skipped_of_fails fails [] rest
    rw [warned]
    exact .cons ⟨error, fails, rfl⟩ others

/-- What is said of a draining that imported nothing. -/
structure NoneImported (history : List Step) (session : Session) (registry : Registry)
    (disk : Disk) (error : NoValidArtifacts) : Prop where
  registered : error.registered = (registeredArtifacts history).length
  failed : error.failed = (registeredArtifacts history).length
  /-- The warnings raised while collecting come first. -/
  warnings : ∃ skipped, error.warnings = session.warnings ++ skipped ∧
    SkipsAll registry disk (artifacts history) skipped

theorem outcome_eq_error_iff {session : Session} {registry : Registry} {disk : Disk}
    {artifacts : List Artifact} {error : NoValidArtifacts} :
    outcome session registry disk artifacts = .error error ↔
      (∀ artifact ∈ artifacts, ∃ error,
        registry.importArtifact disk artifact = .error error) ∧
      error = ⟨artifacts.length, (skipped registry disk artifacts).length,
        session.warnings ++ skipped registry disk artifacts⟩ := by
  rw [outcome, ← contributions_eq_nil_iff, ← List.isEmpty_iff]
  split
  · next none => simp [none, eq_comm]
  · next some => simp [some]

theorem noneImported_of_outcome {history : List Step} {session : Session} {registry : Registry}
    {disk : Disk} {error : NoValidArtifacts}
    (failed : outcome session registry disk (artifacts history) = .error error) :
    NoneImported history session registry disk error := by
  obtain ⟨fail, rfl⟩ := outcome_eq_error_iff.mp failed
  have length : (artifacts history).length = (registeredArtifacts history).length :=
    List.length_mergeSort _
  have skips := skipsAll_skipped fail
  exact ⟨length, skips.length_eq.symm.trans length, _, rfl, skips⟩

end Published

namespace Aggregation

section Draining

variable {settings : Settings} {registry : Registry} {calls : List (Disk × Call)}
  (draining : ((start settings registry).run calls).session.phase = .draining) (disk : Disk)

include draining

theorem drain_noValidArtifacts_iff (error : NoValidArtifacts) :
    (((start settings registry).run calls).drain disk).1 = .error (.noValidArtifacts error) ↔
      Published.outcome ((start settings registry).run calls).session registry disk
        (Published.artifacts ((start settings registry).history calls)) = .error error := by
  rw [drain_run_eq draining]
  cases Published.outcome ((start settings registry).run calls).session registry disk
    (Published.artifacts ((start settings registry).history calls)) with
  | ok result => simp [Except.mapError]
  | error other => simp [Except.mapError]

/-- A draining fails exactly when it can import nothing. -/
theorem drain_fails_iff :
    (∃ error, (((start settings registry).run calls).drain disk).1 =
        .error (.noValidArtifacts error)) ↔
      ∀ artifact ∈ registeredArtifacts ((start settings registry).history calls),
        ∃ error, registry.importArtifact disk artifact = .error error := by
  simp only [drain_noValidArtifacts_iff draining, Published.outcome_eq_error_iff,
    Published.mem_artifacts, exists_and_left, exists_eq, and_true]

end Draining

section Collecting

variable {settings : Settings} {registry : Registry} {calls : List (Disk × Call)}
  (collecting : ((start settings registry).run calls).session.phase = .collecting)

include collecting

/-- An artifact that cannot be imported only leaves its warning. -/
theorem outcomeAfter_of_fails {moduleKey : String} {module : Module}
    (known : ((start settings registry).run calls).session.modules.get? moduleKey = some module)
    {kind : ArtifactKind} {path : Path} {disk : Disk} {error : ImportError}
    (fails : registry.importArtifact disk ⟨moduleKey, kind, module.root.join path⟩ =
      .error error)
    (here : Disk) {later : List (Disk × Registration)}
    (importable : ∃ other ∈ (((start settings registry).run calls).session.registeringEach
      later).artifacts.all, ∃ contribution,
        registry.importArtifact disk other = .ok contribution) :
    ∃ result fuller,
      ((start settings registry).run calls).outcomeAfter later disk = .ok result ∧
      ((start settings registry).run calls).outcomeAfter
        ((here, .artifact moduleKey kind path) :: later) disk = .ok fuller ∧
      result.SkipsOneMore ⟨moduleKey, kind, module.root.join path⟩ error fuller := by
  have coherent := coherent_run (coherent_start settings registry) calls
  have gains := (Session.gains_registering collecting known here kind path).registeringEach
    collecting later
  obtain ⟨result, fuller, drained, drainedFuller, skips⟩ :=
    Published.outcome_of_gains fails gains importable
  refine ⟨result, fuller, ?_, ?_, skips⟩
  · rw [outcomeAfter_eq coherent collecting, registry_run]
    exact congrArg (Except.mapError DrainError.noValidArtifacts) drained
  · rw [outcomeAfter_eq coherent collecting, registry_run]
    exact congrArg (Except.mapError DrainError.noValidArtifacts) drainedFuller

end Collecting

/-- An artifact that cannot be imported, registered anywhere among the registrations, counts as
failed and leaves its warning, and a draining fails exactly when it can import nothing. -/
theorem failing_artifacts_isolated (settings : Settings) (registry : Registry)
    (calls : List (Disk × Call)) (disk : Disk) :
    (((start settings registry).run calls).session.phase = .collecting →
      ∀ (moduleKey : String) (module : Module) (kind : ArtifactKind) (path : Path)
        (error : ImportError) (here : Disk) (later : List (Disk × Registration)),
        ((start settings registry).run calls).session.modules.get? moduleKey = some module →
        registry.importArtifact disk ⟨moduleKey, kind, module.root.join path⟩ = .error error →
        (∃ other ∈ (((start settings registry).run calls).session.registeringEach
          later).artifacts.all, ∃ contribution,
            registry.importArtifact disk other = .ok contribution) →
        ∃ result fuller,
          ((start settings registry).run calls).outcomeAfter later disk = .ok result ∧
          ((start settings registry).run calls).outcomeAfter
            ((here, .artifact moduleKey kind path) :: later) disk = .ok fuller ∧
          result.SkipsOneMore ⟨moduleKey, kind, module.root.join path⟩ error fuller) ∧
    (((start settings registry).run calls).session.phase = .draining →
      ((∃ error, (((start settings registry).run calls).drain disk).1 =
          .error (.noValidArtifacts error)) ↔
        ∀ artifact ∈ registeredArtifacts ((start settings registry).history calls),
          ∃ error, registry.importArtifact disk artifact = .error error) ∧
      ∀ error, (((start settings registry).run calls).drain disk).1 =
          .error (.noValidArtifacts error) →
        Published.NoneImported ((start settings registry).history calls)
          ((start settings registry).run calls).session registry disk error) := by
  refine ⟨?_, ?_⟩
  · intro collecting moduleKey module kind path error here later known fails importable
    exact outcomeAfter_of_fails collecting known fails here importable
  · intro draining
    refine ⟨drain_fails_iff draining disk, ?_⟩
    intro error failed
    exact Published.noneImported_of_outcome
      ((drain_noValidArtifacts_iff draining disk error).mp failed)

/-- A report that is not there, before one that is, and alone. -/
theorem failing_artifacts_isolated_missing :
    (∃ result fuller,
      ((start {} (Registry.standard {})).run rootCalls).outcomeAfter
        [(oneReportDisk, .artifact "App" .telemetryJson ⟨[0x74]⟩)] oneReportDisk = .ok result ∧
      ((start {} (Registry.standard {})).run rootCalls).outcomeAfter
        [(oneReportDisk, .artifact "App" .telemetryJson ⟨[0x75]⟩),
          (oneReportDisk, .artifact "App" .telemetryJson ⟨[0x74]⟩)] oneReportDisk = .ok fuller ∧
      result.SkipsOneMore ⟨"App", .telemetryJson, ⟨[0x2F, 0x75]⟩⟩
        (.unreadable .telemetryJson ⟨[0x2F, 0x75]⟩ .notFound) fuller) ∧
    ∃ error, (((start {} (Registry.standard {})).run
        (reportCalls oneReportDisk [⟨[0x75]⟩])).drain oneReportDisk).1 =
          .error (.noValidArtifacts error) ∧
      error.registered = 1 ∧ error.failed = 1 := by
  have fails : (Registry.standard {}).importArtifact oneReportDisk
      ⟨"App", .telemetryJson, ⟨[0x2F, 0x75]⟩⟩ =
        .error (.unreadable .telemetryJson ⟨[0x2F, 0x75]⟩ .notFound) := by decide +kernel
  constructor
  · have isolated := (failing_artifacts_isolated {} (Registry.standard {}) rootCalls
      oneReportDisk).1 rfl
    apply isolated "App" ⟨"App", ⟨[0x2F]⟩, .main⟩ .telemetryJson ⟨[0x75]⟩ _ oneReportDisk
      [(oneReportDisk, .artifact "App" .telemetryJson ⟨[0x74]⟩)] rfl fails
    exact ⟨_, List.mem_singleton_self _, _, import_oneReport⟩
  · obtain ⟨failsIff, counts⟩ := (failing_artifacts_isolated {} (Registry.standard {})
      (reportCalls oneReportDisk [⟨[0x75]⟩]) oneReportDisk).2 rfl
    have none : ∀ artifact ∈ registeredArtifacts ((start {} (Registry.standard {})).history
        (reportCalls oneReportDisk [⟨[0x75]⟩])), ∃ error,
          (Registry.standard {}).importArtifact oneReportDisk artifact = .error error := by
      intro artifact member
      obtain rfl : artifact = ⟨"App", .telemetryJson, ⟨[0x2F, 0x75]⟩⟩ :=
        List.mem_singleton.mp member
      exact ⟨_, fails⟩
    obtain ⟨error, failed⟩ := failsIff.mpr none
    exact ⟨error, failed, (counts error failed).registered, (counts error failed).failed⟩

end Aggregation

end ScanMerge
