import ScanMerge.Proofs.ImportedFindings
import ScanMerge.Proofs.ModuleReferences
import ScanMerge.Proofs.PublishedResult

/-!
The form of what is published. Merging changes the file and the project type of a finding and no more,
so every published finding still has the form of its kind; its module is registered, and its file is
recorded.
-/

set_option autoImplicit false

namespace ScanMerge

/-- What a finding's form depends on. -/
theorem Finding.WellFormed.congr {left right : Finding} (wellFormed : left.WellFormed)
    (kind : right.kind = left.kind) (severity : right.severity = left.severity)
    (location : right.location = left.location) (message : right.message = left.message)
    (inFile : right.sourceFile.isSome = left.sourceFile.isSome) : right.WellFormed := by
  constructor
  · rw [severity, kind]
    exact wellFormed.severity
  · rw [location, kind, inFile]
    exact wellFormed.location
  · intro telemetry
    rw [kind] at telemetry
    rw [wellFormed.telemetry telemetry] at inFile
    simpa using inFile
  · rw [kind, inFile, location, message]
    exact wellFormed.measure

/-- Every issue is counted under its severity, and nothing else is. -/
theorem Summary.countSeverity_add {findings : List Finding}
    (wellFormed : ∀ finding ∈ findings, finding.WellFormed) :
    countSeverity .critical findings + countSeverity .high findings +
        countSeverity .medium findings + countSeverity .low findings =
      countKind .issue findings := by
  induction findings with
  | nil => rfl
  | cons finding rest ih =>
    have others := ih fun later member => wellFormed later (List.mem_cons_of_mem _ member)
    have own := (wellFormed finding List.mem_cons_self).severity
    simp only [countSeverity, countKind, List.countP_cons] at others ⊢
    cases given : finding.severity with
    | none =>
      rw [given] at own
      have notIssue : finding.kind ≠ .issue := fun kind => by simp [kind] at own
      simp [notIssue]
      omega
    | some severity =>
      rw [given] at own
      have issue : finding.kind = .issue := own.mp rfl
      cases severity <;> simp [issue] <;> omega

namespace Published

/-- What is said of a result, given the modules of its session. -/
structure WellFormed (modules : ModuleTable) (result : AnalysisResult) : Prop where
  /-- A finding is for a registered module and has its project type. -/
  modules : ∀ finding ∈ result.findings, ∃ module,
    modules.get? finding.moduleKey = some module ∧ finding.projectType = module.projectType
  findings : ∀ finding ∈ result.findings, finding.WellFormed
  severities : result.summary.critical + result.summary.high + result.summary.medium +
    result.summary.low = result.summary.issues
  /-- The file of a finding has a record, and is not excluded. -/
  files : ∀ finding ∈ result.findings, ∀ file, finding.sourceFile = some file →
    ∃ record ∈ result.files, record.path.same file = true ∧ record.isExcluded = false

section Findings

variable {session : Session} {disk : Disk} {contributions : List (Artifact × Contribution)}

theorem exists_file_of_place {lookups : List (String × Path)} {generated : List Path}
    {moduleKey : String} {finding placed : Finding}
    (place : place? session disk lookups generated moduleKey finding = some placed) :
    ∃ file?, file?.isSome = finding.sourceFile.isSome ∧
      placed = { finding with sourceFile := file? } := by
  rw [place?] at place
  cases reported : finding.sourceFile with
  | none =>
    rw [reported] at place
    cases place
    exact ⟨none, rfl, by rw [← reported]⟩
  | some path =>
    rw [reported] at place
    obtain ⟨canonical, -, rfl⟩ := Option.map_eq_some_iff.mp place
    exact ⟨some canonical, rfl, rfl⟩

/-- A published finding was reported by an artifact, and only its file and its project type were
changed. -/
theorem exists_reported_of_mem {published : Finding}
    (member : published ∈ findingsOf session disk contributions) :
    ∃ artifact contribution, (artifact, contribution) ∈ contributions ∧
      ∃ finding ∈ contribution.findings, ∃ file?,
        file?.isSome = finding.sourceFile.isSome ∧
        published = { finding with
          sourceFile := file?
          projectType :=
            ((session.modules.get? finding.moduleKey).map Module.projectType).getD .unknown } := by
  rw [findingsOf] at member
  obtain ⟨placed, first, rfl⟩ := List.mem_map.mp member
  obtain ⟨⟨moduleKey, finding⟩, reported, place⟩ :=
    List.mem_filterMap.mp (mem_of_mem_firsts first)
  obtain ⟨⟨artifact, contribution⟩, contributes, own⟩ := List.mem_flatMap.mp reported
  obtain ⟨source, inside, same⟩ := List.mem_map.mp own
  obtain ⟨rfl, rfl⟩ := Prod.mk.inj same
  obtain ⟨file?, inFile, rfl⟩ := exists_file_of_place place
  exact ⟨artifact, contribution, contributes, source, inside, file?, inFile, rfl⟩

theorem exists_record_of_keeps {generated : List Path} {file : Path}
    (keeps : keeps session generated file = true) :
    ∃ record ∈ session.files.records, record.path.same file = true ∧
      record.isExcluded = false := by
  rw [Published.keeps, Option.any_eq_true] at keeps
  obtain ⟨record, found, kept⟩ := keeps
  have same := List.find?_some found
  refine ⟨record, List.mem_of_find?_eq_some found, same, ?_⟩
  simp only [Bool.and_eq_true, Bool.not_eq_true'] at kept
  rw [FileRecord.isExcluded, kept.1.1, kept.1.2]
  rfl

end Findings

theorem wellFormed_result {session : Session} (registry : Registry) (disk : Disk)
    {artifacts : List Artifact}
    (known : ∀ artifact ∈ artifacts, session.Knows artifact.moduleKey) :
    WellFormed session.modules (result session registry disk artifacts) := by
  have published : Publishes session disk (contributions registry disk artifacts)
      (result session registry disk artifacts) := publishes_of_findings rfl
  have formed : ∀ finding ∈ (result session registry disk artifacts).findings,
      finding.WellFormed := by
    intro finding member
    obtain ⟨artifact, contribution, contributes, reported, inside, file?, inFile, rfl⟩ :=
      exists_reported_of_mem member
    have fits := Registry.fits (mem_contributions.mp contributes).2
    exact (fits reported inside).2.congr rfl rfl rfl rfl inFile
  constructor
  case modules =>
    intro finding member
    obtain ⟨artifact, contribution, contributes, reported, inside, file?, -, rfl⟩ :=
      exists_reported_of_mem member
    obtain ⟨registered, imports⟩ := mem_contributions.mp contributes
    have own : reported.moduleKey = artifact.moduleKey := (Registry.fits imports reported inside).1
    obtain ⟨module, present⟩ := Option.isSome_iff_exists.mp (known artifact registered)
    refine ⟨module, ?_, ?_⟩
    · rw [← present, ← own]
    · simp only [own, present, Option.map_some, Option.getD_some]
  case findings => exact formed
  case severities => exact Summary.countSeverity_add formed
  case files =>
    intro finding member file inFile
    exact exists_record_of_keeps (published.kept finding member file inFile)

end Published

/-- A result that is there after a step was there before it, or the step merged it. -/
theorem Step.Genuine.result_after {step : Step} (genuine : step.Genuine) {result : AnalysisResult}
    (present : step.after.result? = some result) :
    (step.before.result? = some result ∧ step.after = step.before) ∨
      (step.before.merged step.disk = .ok result ∧
        step.after.session.modules = step.before.session.modules) := by
  cases there : step.before.result? with
  | some earlier =>
    have same := genuine.becomes.onward.final (genuine.coherent earlier there)
    rw [same, there] at present
    exact .inl ⟨present, same⟩
  | none =>
    have becomes := genuine.becomes
    cases call : step.call with
    | drain =>
      rcases genuine.drain call with ⟨earlier, found, -⟩ | ⟨-, -, -, same⟩ | ⟨-, -, -, stored⟩
      · rw [there] at found
        cases found
      · rw [same, there] at present
        cases present
      · right
        rw [stored] at present
        constructor
        · cases merged : step.before.merged step.disk with
          | ok published =>
            rw [merged] at present
            exact congrArg Except.ok (Option.some.inj present)
          | error error =>
            rw [merged] at present
            cases present
        · rw [call] at becomes
          generalize step.after = after at becomes
          cases becomes <;> rfl
    | register | beginDraining | result | phase =>
      rw [call] at becomes
      generalize step.after = after at becomes present
      cases becomes <;> cases there.symm.trans present

namespace Aggregation

/-- What is merged is well-formed. -/
theorem wellFormed_merged {aggregation : Aggregation}
    (referential : aggregation.session.Referential) {disk : Disk} {result : AnalysisResult}
    (merged : aggregation.merged disk = .ok result) :
    Published.WellFormed aggregation.session.modules result := by
  rw [Aggregation.merged, Merge.ofOutcomes_eq, Published.outcome] at merged
  split at merged
  · cases merged
  · cases merged
    exact Published.wellFormed_result _ disk referential.artifacts

/-- What is held is sound, and a result that is there is well-formed. -/
structure Sound (aggregation : Aggregation) : Prop where
  session : aggregation.session.Sound
  result : ∀ result, aggregation.result? = some result →
    Published.WellFormed aggregation.session.modules result

theorem sound_start (settings : Settings) (registry : Registry) :
    (start settings registry).Sound where
  session := Session.sound_ofSettings settings
  result _ present := by cases present

/-- A result that is there after a step is well-formed, and came with the modules before it. -/
theorem Sound.result_after {step : Step} (sound : step.before.Sound) (genuine : step.Genuine)
    {result : AnalysisResult} (present : step.after.result? = some result) :
    Published.WellFormed step.before.session.modules result ∧
      step.after.session.modules = step.before.session.modules := by
  rcases genuine.result_after present with ⟨there, same⟩ | ⟨merged, same⟩
  · exact ⟨sound.result result there, by rw [same]⟩
  · exact ⟨wellFormed_merged sound.session.1 merged, same⟩

theorem Sound.after {step : Step} (sound : step.before.Sound) (genuine : step.Genuine) :
    step.after.Sound where
  session := genuine.sound sound.session
  result result present := by
    obtain ⟨wellFormed, same⟩ := sound.result_after genuine present
    rwa [same]

theorem Sound.drained {aggregation : Aggregation} (sound : aggregation.Sound)
    (coherent : aggregation.Coherent) {disk : Disk} {result : AnalysisResult}
    (drained : (aggregation.drain disk).1 = .ok result) :
    Published.WellFormed aggregation.session.modules result := by
  rw [drain] at drained
  cases progress : aggregation.drainProgress disk with
  | mk given after =>
    rw [progress] at drained
    have genuine : Step.Genuine ⟨aggregation, disk, .drain, .drained given, after⟩ :=
      ⟨coherent, by simp only [perform, progress]⟩
    have answer : Answer.drained given = .drained ⟨given.imported, .ok result⟩ := by
      rw [← drained]
    exact (Sound.result_after sound genuine (genuine.published answer).2).1

/-- Whatever is called, what is held refers to registered modules, these stay as they are, and every
result that is there or that draining gives is well-formed. -/
theorem run_wellFormed (settings : Settings) (registry : Registry) (calls : List (Disk × Call)) :
    ((start settings registry).run calls).session.Referential ∧
      (∀ key module,
        ((start settings registry).run calls).session.modules.get? key = some module →
        ∀ later, ((start settings registry).run (calls ++ later)).session.modules.get? key =
          some module) ∧
      ∀ disk result, ((start settings registry).run calls).result? = some result ∨
        (((start settings registry).run calls).drain disk).1 = .ok result →
        Published.WellFormed ((start settings registry).run calls).session.modules result := by
  have coherent := coherent_start settings registry
  have sound : ((start settings registry).run calls).Sound :=
    history_keeps (P := fun _ aggregation => aggregation.Sound)
      (fun _ _ genuine sound => Sound.after sound genuine) coherent []
      (sound_start settings registry) calls
  refine ⟨sound.session.1, ?_, ?_⟩
  · intro key module present later
    rw [run_append]
    exact module_run present later
  · rintro disk result (there | drained)
    · exact sound.result result there
    · exact sound.drained (coherent_run coherent calls) drained

/-- A result is drained from one telemetry report, and it is well-formed. -/
theorem run_wellFormed_oneReport :
    ∃ result, (((start {} (Registry.standard {})).run
        (reportCalls oneReportDisk [⟨[0x74]⟩])).drain oneReportDisk).1 = .ok result ∧
      Published.WellFormed ((start {} (Registry.standard {})).run
        (reportCalls oneReportDisk [⟨[0x74]⟩])).session.modules result := by
  have draining : ((start {} (Registry.standard {})).run
      (reportCalls oneReportDisk [⟨[0x74]⟩])).session.phase = .draining := rfl
  have registered : registeredArtifacts ((start {} (Registry.standard {})).history
      (reportCalls oneReportDisk [⟨[0x74]⟩])) = [⟨"App", .telemetryJson, ⟨[0x2F, 0x74]⟩⟩] := rfl
  have importable : ∃ artifact ∈ registeredArtifacts ((start {} (Registry.standard {})).history
      (reportCalls oneReportDisk [⟨[0x74]⟩])), ∃ contribution,
        (Registry.standard {}).importArtifact oneReportDisk artifact = .ok contribution := by
    rw [registered]
    exact ⟨_, List.mem_singleton_self _, _, import_oneReport⟩
  have drained := drain_of_importable draining importable
  have formed := run_wellFormed {} (Registry.standard {}) (reportCalls oneReportDisk [⟨[0x74]⟩])
  exact ⟨_, drained, formed.2.2 oneReportDisk _ (.inr drained)⟩

end Aggregation

end ScanMerge
