import ScanMerge.Proofs.PublishedFindings
import Mathlib.Data.List.Induction

/-!
The whole outcome of a draining, figures and warnings included, as a function of the session and of
what becomes of its artifacts. What is said of outcomes elsewhere is read off this function.
-/

set_option autoImplicit false

namespace ScanMerge

namespace Published

/-- The warning about an artifact that cannot be imported. -/
def skippedWarning (artifact : Artifact) (error : ImportError) : Warning :=
  { kind := .skippedArtifact
    moduleKey := some artifact.moduleKey
    path := some artifact.path
    message := error.message }

/-- The warnings about the artifacts that cannot be imported, in the order of the artifacts. -/
def skipped (registry : Registry) (disk : Disk) (artifacts : List Artifact) : List Warning :=
  artifacts.filterMap fun artifact =>
    match registry.importArtifact disk artifact with
    | .ok _ => none
    | .error error => some (skippedWarning artifact error)

/-- The warnings that came with importing, in the order of the artifacts. -/
def importWarnings (contributions : List (Artifact × Contribution)) : List Warning :=
  contributions.flatMap fun (_, contribution) => contribution.warnings

section Findings

variable (session : Session) (disk : Disk) (contributions : List (Artifact × Contribution))

/-- The findings that are not dropped for their file, in the order of the artifacts. -/
def placed : List Finding :=
  (reported contributions).filterMap fun (moduleKey, finding) =>
    place? session disk (lookups contributions) (generated session disk contributions)
      moduleKey finding

/-- The findings that are dropped for their file. -/
def filtered : List (String × Finding) :=
  (reported contributions).filter fun (moduleKey, finding) =>
    (place? session disk (lookups contributions) (generated session disk contributions)
      moduleKey finding).isNone

theorem length_placed_add_filtered :
    (placed session disk contributions).length + (filtered session disk contributions).length =
      (reported contributions).length := by
  have split := List.length_eq_countP_add_countP (fun entry : String × Finding =>
    (place? session disk (lookups contributions) (generated session disk contributions)
      entry.1 entry.2).isSome) (l := reported contributions)
  rw [placed, filtered, List.length_filterMap_eq_countP, ← List.countP_eq_length_filter, split]
  congr 2
  funext entry
  obtain ⟨moduleKey, finding⟩ := entry
  change Option.isNone _ = decide ¬ Option.isSome _ = true
  cases place? session disk (lookups contributions) (generated session disk contributions)
    moduleKey finding <;> rfl

end Findings

/-- The findings that have an earlier one of their identity. -/
def repeated (findings : List Finding) : List Finding :=
  (findings.zipIdx.filter fun (finding, place) =>
    (findings.take place).any fun earlier => earlier.identity = finding.identity).map Prod.fst

theorem repeated_append_singleton (findings : List Finding) (last : Finding) :
    repeated (findings ++ [last]) = repeated findings ++
      if findings.any fun earlier => earlier.identity = last.identity then [last] else [] := by
  have before : (findings.zipIdx.filter fun (finding, place) =>
      ((findings ++ [last]).take place).any fun earlier =>
        earlier.identity = finding.identity) =
      findings.zipIdx.filter fun (finding, place) =>
        (findings.take place).any fun earlier => earlier.identity = finding.identity := by
    apply List.filter_congr
    rintro ⟨finding, place⟩ member
    have inside := (List.mem_zipIdx member).2.1
    rw [Nat.zero_add] at inside
    simp only [List.take_append_of_le_length (Nat.le_of_lt inside)]
  rw [repeated, repeated, List.zipIdx_append, List.filter_append, before, List.map_append]
  congr 1
  simp [List.filter_cons]
  split <;> rfl

theorem firsts_append_singleton (findings : List Finding) (last : Finding) :
    firsts (findings ++ [last]) = firsts findings ++
      if findings.any fun earlier => earlier.identity = last.identity then [] else [last] := by
  induction findings using firsts_induction with
  | nil => rfl
  | cons first rest ih =>
    rw [List.cons_append, firsts_cons, firsts_cons, List.filter_append]
    by_cases same : first.identity = last.identity
    · simp [same]
    · have others : (rest.filter fun later => later.identity ≠ first.identity).any
          (fun earlier => earlier.identity = last.identity) =
          rest.any fun earlier => earlier.identity = last.identity := by
        rw [List.any_filter]
        congr 1
        funext earlier
        by_cases own : earlier.identity = last.identity
        · simp [own, Ne.symm same]
        · simp [own]
      have kept : ([last].filter fun later => later.identity ≠ first.identity) = [last] := by
        simp [Ne.symm same]
      rw [kept, ih, others]
      simp [same]

theorem length_firsts_add_repeated (findings : List Finding) :
    (firsts findings).length + (repeated findings).length = findings.length := by
  induction findings using List.reverseRecOn with
  | nil => rfl
  | append_singleton findings last ih =>
    rw [firsts_append_singleton, repeated_append_singleton]
    split <;> simp only [List.length_append, List.length_singleton, List.length_nil] <;> omega

def result (session : Session) (registry : Registry) (disk : Disk) (artifacts : List Artifact) :
    AnalysisResult :=
  let contributions := contributions registry disk artifacts
  let findings := findingsOf session disk contributions
  { figures :=
      { modules := session.modules.counts
        filesRecorded := session.files.records.length
        filesExcluded := session.files.records.countP FileRecord.isExcluded
        artifactsRegistered := artifacts.length
        artifactsImported := contributions.length
        artifactsFailed := (skipped registry disk artifacts).length
        findingsFiltered := (filtered session disk contributions).length
        duplicatesDropped := (repeated (placed session disk contributions)).length
        totalFindings := findings.length }
    findings
    files := session.files.records
    conflicts := session.files.conflicts
    methodDeclarations := ModuleMethods.ofFacts session.modules.projectType session.methods
    telemetry := Merge.telemetry session findings
    summary := .ofFindings findings
    warnings := session.warnings ++ skipped registry disk artifacts ++
      importWarnings contributions }

/-- What becomes of the artifacts of a session: there is a result if one of them is imported. -/
def outcome (session : Session) (registry : Registry) (disk : Disk) (artifacts : List Artifact) :
    Except NoValidArtifacts AnalysisResult :=
  if (contributions registry disk artifacts).isEmpty then
    .error ⟨artifacts.length, (skipped registry disk artifacts).length,
      session.warnings ++ skipped registry disk artifacts⟩
  else
    .ok (result session registry disk artifacts)

theorem mem_artifacts {history : List Step} {artifact : Artifact} :
    artifact ∈ artifacts history ↔ artifact ∈ registeredArtifacts history :=
  List.mem_mergeSort

theorem length_contributions_add_skipped (registry : Registry) (disk : Disk)
    (artifacts : List Artifact) :
    (contributions registry disk artifacts).length + (skipped registry disk artifacts).length =
      artifacts.length := by
  rw [contributions, skipped, List.length_filterMap_eq_countP, List.length_filterMap_eq_countP,
    List.length_eq_countP_add_countP fun artifact =>
      (registry.importArtifact disk artifact).isOk]
  congr 2 <;> funext artifact <;> cases registry.importArtifact disk artifact <;> rfl

theorem mem_contributions {registry : Registry} {disk : Disk} {artifacts : List Artifact}
    {artifact : Artifact} {contribution : Contribution} :
    (artifact, contribution) ∈ contributions registry disk artifacts ↔
      artifact ∈ artifacts ∧ registry.importArtifact disk artifact = .ok contribution := by
  rw [contributions, List.mem_filterMap]
  constructor
  · rintro ⟨other, member, imports⟩
    cases imported : registry.importArtifact disk other with
    | ok contribution =>
      rw [imported] at imports
      cases imports
      exact ⟨member, imported⟩
    | error error =>
      rw [imported] at imports
      cases imports
  · rintro ⟨member, imports⟩
    refine ⟨artifact, member, ?_⟩
    rw [imports]
    rfl

theorem contributions_eq_nil_iff {registry : Registry} {disk : Disk} {artifacts : List Artifact} :
    contributions registry disk artifacts = [] ↔
      ∀ artifact ∈ artifacts, ∃ error, registry.importArtifact disk artifact = .error error := by
  rw [List.eq_nil_iff_forall_not_mem]
  constructor
  · intro none artifact member
    cases imported : registry.importArtifact disk artifact with
    | ok contribution => exact absurd (mem_contributions.mpr ⟨member, imported⟩) (none _)
    | error error => exact ⟨error, rfl⟩
  · rintro fails ⟨artifact, contribution⟩ member
    obtain ⟨inside, imported⟩ := mem_contributions.mp member
    obtain ⟨error, failed⟩ := fails artifact inside
    rw [failed] at imported
    cases imported

theorem outcome_of_importable (session : Session) {registry : Registry} {disk : Disk}
    {artifacts : List Artifact}
    (importable : ∃ artifact ∈ artifacts, ∃ contribution,
      registry.importArtifact disk artifact = .ok contribution) :
    outcome session registry disk artifacts = .ok (result session registry disk artifacts) := by
  obtain ⟨artifact, member, contribution, imports⟩ := importable
  have contributes := mem_contributions.mpr ⟨member, imports⟩
  rw [outcome, if_neg]
  rw [List.isEmpty_iff]
  exact List.ne_nil_of_mem contributes

end Published

namespace Merge

theorem skipped_eq (registry : Registry) (disk : Disk) (artifacts : List Artifact) :
    (outcomes registry disk artifacts).filterMap Outcome.warning? =
      Published.skipped registry disk artifacts := by
  rw [outcomes, Published.skipped, List.filterMap_map]
  rfl

section Located

variable (session : Session) (disk : Disk) (contributions : List (Artifact × Contribution))

/-- The pass over the findings of contributions, with what the pass over their hints found. -/
def locatedOf : Sifted :=
  located session disk (resolveAll session disk .empty (Published.hints contributions)).1
    (resolveAll session disk .empty (Published.hints contributions)).2
    (Published.reported contributions)

theorem kept_locatedOf :
    (locatedOf session disk contributions).kept =
      Published.placed session disk contributions := by
  have hints := resolveAll_fst (Resolutions.answer_empty session disk)
    (Published.hints contributions) (Published.files (Published.reported contributions))
  have answers := resolveAll_snd (Resolutions.answer_empty session disk)
    (Published.hints contributions)
  rw [List.nil_append] at hints answers
  rw [locatedOf, hints]
  exact kept_located answers (Published.generated session disk contributions)
    (Published.reported contributions)

theorem dropped_locatedOf :
    (locatedOf session disk contributions).dropped =
      (Published.filtered session disk contributions).length := by
  have all : (locatedOf session disk contributions).total =
      (Published.reported contributions).length := total_located session disk _ _ _
  rw [Sifted.total, kept_locatedOf, ← Published.length_placed_add_filtered session disk] at all
  exact Nat.add_left_cancel all

end Located

theorem dropped_distinct (findings : List Finding) :
    (distinct [] findings).dropped = (Published.repeated findings).length := by
  have all := total_distinct [] findings
  rw [Sifted.total, kept_distinct, ← Published.length_firsts_add_repeated findings] at all
  exact Nat.add_left_cancel all

theorem resultOf_eq (session : Session) (registry : Registry) (disk : Disk)
    (artifacts : List Artifact) :
    resultOf session disk artifacts.length
        ((Published.contributions registry disk artifacts).map fun (artifact, contribution) =>
          ⟨artifact, contribution⟩)
        (Published.skipped registry disk artifacts) =
      Published.result session registry disk artifacts := by
  have kept := kept_locatedOf session disk (Published.contributions registry disk artifacts)
  have dropped := dropped_locatedOf session disk (Published.contributions registry disk artifacts)
  rw [locatedOf] at kept dropped
  simp only [resultOf, generatedFiles_eq, reported_eq, kept, dropped, kept_distinct,
    dropped_distinct, List.length_map, List.flatMap_map]
  simp only [Published.result, Published.findingsOf, List.length_map]
  rfl

theorem ofOutcomes_eq (session : Session) (registry : Registry) (disk : Disk)
    (artifacts : List Artifact) :
    ofOutcomes session disk (outcomes registry disk artifacts) =
      Published.outcome session registry disk artifacts := by
  have count : (outcomes registry disk artifacts).length = artifacts.length := List.length_map _
  rw [ofOutcomes, Published.outcome, imported_eq, skipped_eq, count, resultOf_eq,
    List.isEmpty_map]

end Merge

/-- The session after registrations, each on the disk as it is then; those that are refused leave it
as it is. -/
def Session.registeringEach (session : Session) (registrations : List (Disk × Registration)) :
    Session :=
  registrations.foldl (fun session entry => session.registering entry.1 entry.2) session

@[simp] theorem Session.registeringEach_nil (session : Session) :
    session.registeringEach [] = session := rfl

@[simp] theorem Session.registeringEach_cons (session : Session) (disk : Disk)
    (registration : Registration) (rest : List (Disk × Registration)) :
    session.registeringEach ((disk, registration) :: rest) =
      (session.registering disk registration).registeringEach rest := rfl

theorem Session.phase_registeringEach (session : Session)
    (registrations : List (Disk × Registration)) :
    (session.registeringEach registrations).phase = session.phase := by
  induction registrations generalizing session with
  | nil => rfl
  | cons first rest ih => rw [registeringEach_cons, ih, phase_registering]

namespace Aggregation

theorem drain_eq {aggregation : Aggregation} (coherent : aggregation.Coherent)
    (draining : aggregation.session.phase = .draining) (disk : Disk) :
    (aggregation.drain disk).1 =
      (Published.outcome aggregation.session aggregation.registry disk
        aggregation.session.artifacts.all).mapError .noValidArtifacts := by
  rw [drain_of_draining coherent draining, merged, Merge.ofOutcomes_eq]

section Run

variable {settings : Settings} {registry : Registry} {calls : List (Disk × Call)}
  (draining : ((start settings registry).run calls).session.phase = .draining)

include draining

theorem drain_run_eq (disk : Disk) :
    (((start settings registry).run calls).drain disk).1 =
      (Published.outcome ((start settings registry).run calls).session registry disk
        (Published.artifacts ((start settings registry).history calls))).mapError
          .noValidArtifacts := by
  have coherent := coherent_run (coherent_start settings registry) calls
  rw [drain_eq coherent draining, registry_run, artifacts_run settings registry calls]
  rfl

theorem drain_of_importable {disk : Disk}
    (importable : ∃ artifact ∈ registeredArtifacts ((start settings registry).history calls),
      ∃ contribution, registry.importArtifact disk artifact = .ok contribution) :
    (((start settings registry).run calls).drain disk).1 =
      .ok (Published.result ((start settings registry).run calls).session registry disk
        (Published.artifacts ((start settings registry).history calls))) := by
  obtain ⟨artifact, member, imports⟩ := importable
  have inOrder := Published.mem_artifacts.mpr member
  rw [drain_run_eq draining, Published.outcome_of_importable _ ⟨artifact, inOrder, imports⟩]
  rfl

end Run

/-! ### Further registrations -/

/-- What comes of further registrations, each on the disk as it is then, when draining follows. -/
def outcomeAfter (aggregation : Aggregation) (registrations : List (Disk × Registration))
    (disk : Disk) : Except DrainError AnalysisResult :=
  ((aggregation.run (registrations.map fun (there, registration) =>
    (there, .register registration))).finish disk).1

theorem run_register (aggregation : Aggregation) (registrations : List (Disk × Registration)) :
    aggregation.run (registrations.map fun (there, registration) =>
        (there, .register registration)) =
      aggregation.withSession (aggregation.session.registeringEach registrations) := by
  induction registrations generalizing aggregation with
  | nil => rfl
  | cons first rest ih =>
    rw [List.map_cons, run, perform_register, ih]
    rfl

theorem finish_eq {aggregation : Aggregation} (coherent : aggregation.Coherent)
    (collecting : aggregation.session.phase = .collecting) (disk : Disk) :
    (aggregation.finish disk).1 =
      (Published.outcome aggregation.session aggregation.registry disk
        aggregation.session.artifacts.all).mapError .noValidArtifacts := by
  have next := aggregation.perform_becomes disk .beginDraining
  have begun := beginDraining_of_collecting collecting
  simp only [perform, begun] at next
  rw [finish, begun]
  exact drain_eq (next.coherent coherent) rfl disk

theorem outcomeAfter_eq {aggregation : Aggregation} (coherent : aggregation.Coherent)
    (collecting : aggregation.session.phase = .collecting)
    (registrations : List (Disk × Registration)) (disk : Disk) :
    aggregation.outcomeAfter registrations disk =
      (Published.outcome (aggregation.session.registeringEach registrations) aggregation.registry
        disk (aggregation.session.registeringEach registrations).artifacts.all).mapError
          .noValidArtifacts := by
  have still : (aggregation.session.registeringEach registrations).phase = .collecting := by
    rw [Session.phase_registeringEach, collecting]
  have reached := coherent_run coherent (registrations.map fun (there, registration) =>
    (there, Call.register registration))
  rw [run_register] at reached
  rw [outcomeAfter, run_register, finish_eq reached still]
  rfl

/-- A module at the root registers telemetry reports, and draining begins. -/
def reportCalls (disk : Disk) (paths : List Path) : List (Disk × Call) :=
  (disk, .register (.module ⟨"App", ⟨[0x2F]⟩, .main⟩)) ::
    (paths.map fun path => (disk, .register (.artifact "App" .telemetryJson path))) ++
      [(disk, .beginDraining)]

/-- A disk whose root holds a telemetry report with one event. -/
def oneReportDisk : Disk :=
  Disk.empty.putFile [] [0x74] [0x7B, 0x22, 0x61, 0x22, 0x3A, 0x31, 0x7D]

def rootCalls : List (Disk × Call) :=
  [(oneReportDisk, .register (.module ⟨"App", ⟨[0x2F]⟩, .main⟩))]

theorem import_oneReport :
    (Registry.standard {}).importArtifact oneReportDisk ⟨"App", .telemetryJson, ⟨[0x2F, 0x74]⟩⟩ =
      .ok ⟨[.telemetry "App" "a" "1"], [], []⟩ := by
  decide +kernel

end Aggregation

end ScanMerge
