import ScanMerge.Proofs.AcceptedRegistrations
import ScanMerge.Proofs.PublishedResult
import ScanMerge.Proofs.Tallies

/-!
The figures of a result add up: every registered artifact is imported or failed, every reported
finding is published, filtered or a duplicate, and the summary counts each published finding once.
The warnings are those raised while collecting, then one for each failed artifact, then those of the
importers.
-/

set_option autoImplicit false

namespace ScanMerge

/-! ### Summaries -/

namespace Summary

/-- Every finding has one kind. -/
theorem countKind_add (findings : List Finding) :
    countKind .issue findings + countKind .measure findings + countKind .telemetry findings =
      findings.length := by
  induction findings with
  | nil => rfl
  | cons finding rest ih =>
    simp only [countKind, List.countP_cons, List.length_cons] at ih ⊢
    cases finding.kind <;> simp only [reduceCtorEq, decide_false, decide_true, ↓reduceIte,
      Bool.false_eq_true] <;> omega

end Summary

/-! ### Modules -/

namespace ModuleTable

/-- Every module has one project type. -/
theorem total_counts (table : ModuleTable) : table.counts.total = table.keys.length := by
  have length : table.keys.length = table.values.length := by
    rw [KeyMap.keys, KeyMap.values, List.length_map, List.length_map]
  rw [length, counts, ModuleCounts.total]
  simp only [count]
  generalize table.values = modules
  induction modules with
  | nil => rfl
  | cons module rest ih =>
    simp only [List.countP_cons, List.length_cons]
    cases module.projectType <;> simp only [reduceCtorEq, decide_false, decide_true, ↓reduceIte,
      Bool.false_eq_true] <;> omega

end ModuleTable

/-- The modules of a session are those that were accepted, each counted once. -/
theorem Session.Collects.total_counts {session : Session} {accepted : List Registration}
    (collects : session.Collects accepted) :
    session.modules.counts.total =
      (accepted.filterMap Registration.registeredKey?).dedup.length := by
  rw [ModuleTable.total_counts]
  have same := (List.perm_ext_iff_of_nodup session.modules.nodup_keys
    (accepted.filterMap Registration.registeredKey?).nodup_dedup).mpr fun key => by
      rw [KeyMap.mem_keys, collects.modules, List.mem_dedup]
  exact same.length_eq

namespace Published

theorem length_reported (contributions : List (Artifact × Contribution)) :
    (reported contributions).length =
      (contributions.map fun (_, contribution) => contribution.findings.length).sum := by
  rw [reported, List.length_flatMap]
  congr 2
  funext entry
  exact List.length_map _

/-- What is said of the figures and the warnings of a result, given what the artifacts of a history
contributed and the warnings about those that were skipped. -/
structure Accounts (history : List Step) (session : Session) (disk : Disk)
    (contributions : List (Artifact × Contribution)) (skipped : List Warning)
    (result : AnalysisResult) : Prop where
  registered : result.figures.artifactsRegistered =
    (acceptedRegistrations history).countP Registration.isArtifact
  artifacts : result.figures.artifactsRegistered =
    result.figures.artifactsImported + result.figures.artifactsFailed
  imported : result.figures.artifactsImported = contributions.length
  failed : result.figures.artifactsFailed = skipped.length
  reported : (contributions.map fun (_, contribution) => contribution.findings.length).sum =
    result.figures.totalFindings + result.figures.findingsFiltered +
      result.figures.duplicatesDropped
  /-- Findings are filtered whose file is unknown, not recorded or excluded. -/
  filters : result.figures.findingsFiltered = (filtered session disk contributions).length
  /-- Of the others those are dropped that have an earlier one of their identity. -/
  drops : result.figures.duplicatesDropped = (repeated (placed session disk contributions)).length
  findings : result.figures.totalFindings = result.findings.length
  summary : result.summary.total = result.findings.length
  kinds : result.summary.total =
    result.summary.issues + result.summary.measures + result.summary.telemetry
  byKey : result.summary.total = result.summary.byKey.values.sum
  modules : result.figures.modules.main + result.figures.modules.test +
      result.figures.modules.unknown =
    ((acceptedRegistrations history).filterMap Registration.registeredKey?).dedup.length
  files : result.files = session.files.records
  recorded : result.figures.filesRecorded = result.files.length
  excluded : result.figures.filesExcluded = (result.files.filter FileRecord.isExcluded).length
  warnings : result.warnings = session.warnings ++ skipped ++ importWarnings contributions

theorem accounts_result {history : List Step} {session : Session}
    (collects : session.Collects (acceptedRegistrations history))
    (ordered : session.artifacts.all = artifacts history) (registry : Registry) (disk : Disk) :
    Accounts history session disk (contributions registry disk (artifacts history))
      (skipped registry disk (artifacts history))
      (result session registry disk (artifacts history)) := by
  have split := length_contributions_add_skipped registry disk (artifacts history)
  have kept := length_placed_add_filtered session disk
    (contributions registry disk (artifacts history))
  have leading := length_firsts_add_repeated
    (placed session disk (contributions registry disk (artifacts history)))
  have published : (findingsOf session disk
      (contributions registry disk (artifacts history))).length =
        (firsts (placed session disk
          (contributions registry disk (artifacts history)))).length := List.length_map _
  constructor
  case registered =>
    change (artifacts history).length = _
    rw [← ordered, ← collects.artifacts, Facts.size]
  case artifacts => exact split.symm
  case imported => rfl
  case failed => rfl
  case reported =>
    rw [← length_reported]
    simp only [result]
    omega
  case filters => rfl
  case drops => rfl
  case findings => rfl
  case summary => rfl
  case kinds => exact (Summary.countKind_add _).symm
  case byKey =>
    simp only [result, Summary.ofFindings, Summary.sum_values_tally, List.length_map]
  case modules => exact collects.total_counts
  case files => rfl
  case recorded => rfl
  case excluded => exact List.countP_eq_length_filter
  case warnings => rfl

end Published

namespace Aggregation

/-- Whatever is drained, its figures add up. -/
theorem drain_accounts {settings : Settings} {registry : Registry} {calls : List (Disk × Call)}
    (draining : ((start settings registry).run calls).session.phase = .draining) {disk : Disk}
    {result : AnalysisResult}
    (drained : (((start settings registry).run calls).drain disk).1 = .ok result) :
    Published.Accounts ((start settings registry).history calls)
      ((start settings registry).run calls).session disk
      (Published.contributions registry disk
        (Published.artifacts ((start settings registry).history calls)))
      (Published.skipped registry disk
        (Published.artifacts ((start settings registry).history calls))) result := by
  rw [drain_run_eq draining, Published.outcome] at drained
  split at drained
  · cases drained
  · cases drained
    exact Published.accounts_result (run_collects settings registry calls)
      (artifacts_run settings registry calls) registry disk

/-- A disk whose root holds a telemetry report with one event, twice. -/
def repeatedEventDisk : Disk :=
  Disk.empty.putFile [] [0x74]
    [0x7B, 0x22, 0x61, 0x22, 0x3A, 0x31, 0x7D, 0x7B, 0x22, 0x61, 0x22, 0x3A, 0x31, 0x7D]

/-- A module registers the report and one that is not there, and draining begins. -/
def partlyMissingCalls : List (Disk × Call) :=
  reportCalls repeatedEventDisk [⟨[0x74]⟩, ⟨[0x75]⟩]

/-- One of two reports is imported, and the second of its two findings is a duplicate. -/
theorem drain_accounts_partly_missing :
    ∃ result, (((start {} (Registry.standard {})).run partlyMissingCalls).drain
        repeatedEventDisk).1 = .ok result ∧
      result.figures.artifactsRegistered = 2 ∧ result.figures.artifactsImported = 1 ∧
      result.figures.artifactsFailed = 1 ∧ result.figures.totalFindings = 1 ∧
      result.figures.findingsFiltered = 0 ∧ result.figures.duplicatesDropped = 1 ∧
      result.figures.modules.main + result.figures.modules.test +
        result.figures.modules.unknown = 1 ∧
      result.warnings = [Published.skippedWarning ⟨"App", .telemetryJson, ⟨[0x2F, 0x75]⟩⟩
        (.unreadable .telemetryJson ⟨[0x2F, 0x75]⟩ .notFound)] := by
  have inOrder : Published.artifacts
      ((start {} (Registry.standard {})).history partlyMissingCalls) =
        [⟨"App", .telemetryJson, ⟨[0x2F, 0x74]⟩⟩, ⟨"App", .telemetryJson, ⟨[0x2F, 0x75]⟩⟩] :=
    (artifacts_run {} (Registry.standard {}) partlyMissingCalls).symm
  have imports : (Registry.standard {}).importArtifact repeatedEventDisk
      ⟨"App", .telemetryJson, ⟨[0x2F, 0x74]⟩⟩ =
        .ok ⟨[.telemetry "App" "a" "1", .telemetry "App" "a" "1"], [], []⟩ := by decide +kernel
  have fails : (Registry.standard {}).importArtifact repeatedEventDisk
      ⟨"App", .telemetryJson, ⟨[0x2F, 0x75]⟩⟩ =
        .error (.unreadable .telemetryJson ⟨[0x2F, 0x75]⟩ .notFound) := by decide +kernel
  have draining : ((start {} (Registry.standard {})).run partlyMissingCalls).session.phase =
      .draining := rfl
  have importable : ∃ artifact ∈ registeredArtifacts
      ((start {} (Registry.standard {})).history partlyMissingCalls), ∃ contribution,
        (Registry.standard {}).importArtifact repeatedEventDisk artifact = .ok contribution :=
    ⟨_, List.mem_cons_self, _, imports⟩
  obtain ⟨result, drained⟩ : ∃ result, (((start {} (Registry.standard {})).run
      partlyMissingCalls).drain repeatedEventDisk).1 = .ok result :=
    ⟨_, drain_of_importable draining importable⟩
  have accounts := drain_accounts draining drained
  rw [inOrder] at accounts
  have contributions : Published.contributions (Registry.standard {}) repeatedEventDisk
      [⟨"App", .telemetryJson, ⟨[0x2F, 0x74]⟩⟩, ⟨"App", .telemetryJson, ⟨[0x2F, 0x75]⟩⟩] =
        [(⟨"App", .telemetryJson, ⟨[0x2F, 0x74]⟩⟩,
          ⟨[.telemetry "App" "a" "1", .telemetry "App" "a" "1"], [], []⟩)] := by
    simp only [Published.contributions, List.filterMap_cons, imports, fails]
    rfl
  have skipped : Published.skipped (Registry.standard {}) repeatedEventDisk
      [⟨"App", .telemetryJson, ⟨[0x2F, 0x74]⟩⟩, ⟨"App", .telemetryJson, ⟨[0x2F, 0x75]⟩⟩] =
        [Published.skippedWarning ⟨"App", .telemetryJson, ⟨[0x2F, 0x75]⟩⟩
          (.unreadable .telemetryJson ⟨[0x2F, 0x75]⟩ .notFound)] := by
    simp only [Published.skipped, List.filterMap_cons, imports, fails]
    rfl
  rw [contributions, skipped] at accounts
  have filters : result.figures.findingsFiltered = 0 := accounts.filters
  have drops : result.figures.duplicatesDropped = 1 := accounts.drops
  have reported : 2 = result.figures.totalFindings + result.figures.findingsFiltered +
    result.figures.duplicatesDropped := accounts.reported
  have total : result.figures.totalFindings = 1 := by omega
  exact ⟨result, drained, accounts.registered, accounts.imported, accounts.failed, total, filters,
    drops, accounts.modules, accounts.warnings⟩

end Aggregation

end ScanMerge
