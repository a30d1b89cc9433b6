import ScanMerge.Proofs.AcceptedRegistrations
import ScanMerge.Proofs.CollectedSets
import ScanMerge.Proofs.PublishedResult

/-!
The telemetry of a project. A draining lists under each key the registered values, the leaves of the
registered documents, and the values of telemetry findings, ascending. Of the telemetry findings of
a module under one key only the first is published, and the values of the others are not listed.
-/

set_option autoImplicit false

namespace ScanMerge

namespace Published

/-- The finding is in the list, and none before it has its identity. -/
def Leads (findings : List Finding) (finding : Finding) : Prop :=
  ∃ before after, findings = before ++ finding :: after ∧
    ∀ earlier ∈ before, earlier.identity ≠ finding.identity

theorem mem_firsts_iff {findings : List Finding} {finding : Finding} :
    finding ∈ firsts findings ↔ Leads findings finding := by
  induction findings using List.reverseRecOn with
  | nil =>
    constructor
    · intro member
      cases member
    · rintro ⟨before, after, split, -⟩
      cases before <;> cases split
  | append_singleton findings last ih =>
    rw [firsts_append_singleton, List.mem_append, ih]
    constructor
    · rintro (⟨before, after, rfl, new⟩ | member)
      · exact ⟨before, after ++ [last], by simp, new⟩
      · split at member
        · cases member
        · next new =>
          obtain rfl := List.mem_singleton.mp member
          refine ⟨findings, [], rfl, ?_⟩
          intro earlier inside same
          exact new (List.any_eq_true.mpr ⟨earlier, inside, decide_eq_true same⟩)
    · rintro ⟨before, after, split, new⟩
      rcases List.eq_nil_or_concat after with rfl | ⟨others, other, rfl⟩
      · obtain ⟨rfl, lastSame⟩ := List.append_inj' split rfl
        obtain rfl := List.singleton_inj.mp lastSame
        right
        have notAny : (findings.any fun earlier => earlier.identity = last.identity) = false := by
          rw [List.any_eq_false]
          intro earlier inside
          simpa using new earlier inside
        simp [notAny]
      · left
        rw [List.concat_eq_append, ← List.cons_append, ← List.append_assoc] at split
        exact ⟨before, others, (List.append_inj' split rfl).1, new⟩

/-- The published findings are the leading ones, with the project types of their modules. -/
theorem exists_mem_findingsOf {session : Session} {disk : Disk}
    {contributions : List (Artifact × Contribution)} {key value : String} :
    (∃ finding ∈ findingsOf session disk contributions,
        finding.kind = .telemetry ∧ finding.key = key ∧ finding.message = value) ↔
      ∃ finding, Leads (placed session disk contributions) finding ∧
        finding.kind = .telemetry ∧ finding.key = key ∧ finding.message = value := by
  rw [findingsOf]
  constructor
  · rintro ⟨published, member, kind, sameKey, message⟩
    obtain ⟨finding, first, rfl⟩ := List.mem_map.mp member
    exact ⟨finding, mem_firsts_iff.mp first, kind, sameKey, message⟩
  · rintro ⟨finding, leads, kind, sameKey, message⟩
    exact ⟨_, List.mem_map_of_mem (mem_firsts_iff.mpr leads), kind, sameKey, message⟩

/-- What is said of the telemetry of a result. -/
structure TelemetryOf (history : List Step) (session : Session) (disk : Disk)
    (contributions : List (Artifact × Contribution)) (table : TelemetryTable) : Prop where
  /-- A value is registered, or the leaf of a document, or that of the first kept finding of its
  identity. The identity of a finding does not hold its value. -/
  lists : ∀ key value, table.Lists key value ↔
    (∃ moduleKey, .telemetry moduleKey ⟨key, value⟩ ∈ acceptedRegistrations history) ∨
    (∃ moduleKey document, .document moduleKey document ∈ acceptedRegistrations history ∧
      (key, value) ∈ TelemetryTable.documentPairs document) ∨
    ∃ finding, Leads (placed session disk contributions) finding ∧
      finding.kind = .telemetry ∧ finding.key = key ∧ finding.message = value
  ascends : table.Ascends

theorem telemetryOf_result {history : List Step} {session : Session}
    (collects : session.Collects (acceptedRegistrations history)) (registry : Registry)
    (disk : Disk) (artifacts : List Artifact) :
    TelemetryOf history session disk (contributions registry disk artifacts)
      (result session registry disk artifacts).telemetry where
  lists key value := by
    simp only [result, Merge.lists_telemetry, exists_mem_findingsOf, Facts.mem_all,
      collects.telemetry, collects.documents]
    refine or_congr_right (or_congr_left ?_)
    rw [exists_comm]
    simp only [exists_and_right]
  ascends := Merge.ascends_telemetry _ _

end Published

namespace Aggregation

/-- Draining after any calls publishes exactly this telemetry, provided that some registered
artifact can be imported. -/
theorem drain_telemetry {settings : Settings} {registry : Registry} {calls : List (Disk × Call)}
    (draining : ((start settings registry).run calls).session.phase = .draining) {disk : Disk}
    (importable : ∃ artifact ∈ registeredArtifacts ((start settings registry).history calls),
      ∃ contribution, registry.importArtifact disk artifact = .ok contribution) :
    ∃ result, (((start settings registry).run calls).drain disk).1 = .ok result ∧
      Published.TelemetryOf ((start settings registry).history calls)
        ((start settings registry).run calls).session disk
        (Published.contributions registry disk
          (Published.artifacts ((start settings registry).history calls))) result.telemetry :=
  ⟨_, drain_of_importable draining importable,
    Published.telemetryOf_result (run_collects settings registry calls) registry disk _⟩

/-- A disk whose root holds a telemetry report of two events with one key. -/
def twoValuesDisk : Disk :=
  Disk.empty.putFile [] [0x74]
    [0x7B, 0x22, 0x61, 0x22, 0x3A, 0x31, 0x7D, 0x7B, 0x22, 0x61, 0x22, 0x3A, 0x32, 0x7D]

/-- A module registers the report, and draining begins. -/
def twoValuesCalls : List (Disk × Call) :=
  reportCalls twoValuesDisk [⟨[0x74]⟩]

/-- The report contributes two values under one key, and the second is not listed. -/
theorem drain_telemetry_two_values :
    (Registry.standard {}).importArtifact twoValuesDisk ⟨"App", .telemetryJson, ⟨[0x2F, 0x74]⟩⟩ =
        .ok ⟨[.telemetry "App" "a" "1", .telemetry "App" "a" "2"], [], []⟩ ∧
      ∃ result, (((start {} (Registry.standard {})).run twoValuesCalls).drain twoValuesDisk).1 =
          .ok result ∧
        TelemetryTable.Lists result.telemetry "a" "1" ∧
        ¬ TelemetryTable.Lists result.telemetry "a" "2" := by
  have registered : registeredArtifacts ((start {} (Registry.standard {})).history twoValuesCalls) =
      [⟨"App", .telemetryJson, ⟨[0x2F, 0x74]⟩⟩] := rfl
  have accepted : acceptedRegistrations
      ((start {} (Registry.standard {})).history twoValuesCalls) =
        [.module ⟨"App", ⟨[0x2F]⟩, .main⟩, .artifact "App" .telemetryJson ⟨[0x74]⟩] := rfl
  have imports : (Registry.standard {}).importArtifact twoValuesDisk
      ⟨"App", .telemetryJson, ⟨[0x2F, 0x74]⟩⟩ =
        .ok ⟨[.telemetry "App" "a" "1", .telemetry "App" "a" "2"], [], []⟩ := by decide +kernel
  have inOrder : Published.artifacts ((start {} (Registry.standard {})).history twoValuesCalls) =
      [⟨"App", .telemetryJson, ⟨[0x2F, 0x74]⟩⟩] :=
    (artifacts_run {} (Registry.standard {}) twoValuesCalls).symm
  have draining : ((start {} (Registry.standard {})).run twoValuesCalls).session.phase =
      .draining := rfl
  have importable : ∃ artifact ∈ registeredArtifacts
      ((start {} (Registry.standard {})).history twoValuesCalls), ∃ contribution,
        (Registry.standard {}).importArtifact twoValuesDisk artifact = .ok contribution := by
    rw [registered]
    exact ⟨_, List.mem_singleton_self _, _, imports⟩
  refine ⟨imports, ?_⟩
  obtain ⟨result, drained, telemetry⟩ := drain_telemetry draining importable
  have placed : ∀ session, Published.placed session twoValuesDisk (Published.contributions
      (Registry.standard {}) twoValuesDisk (Published.artifacts
        ((start {} (Registry.standard {})).history twoValuesCalls))) =
      [.telemetry "App" "a" "1", .telemetry "App" "a" "2"] := by
    intro session
    rw [inOrder, Published.contributions, List.filterMap_cons, imports]
    rfl
  refine ⟨result, drained, ?_, ?_⟩
  · rw [telemetry.lists]
    refine .inr (.inr ⟨.telemetry "App" "a" "1", ⟨[], _, placed _, ?_⟩, rfl, rfl, rfl⟩)
    exact fun _ member => absurd member List.not_mem_nil
  · rw [telemetry.lists, accepted]
    rintro (⟨_, member⟩ | ⟨_, _, member, -⟩ | ⟨finding, leads, -, -, value⟩)
    · simp at member
    · simp at member
    · have first : Published.firsts [.telemetry "App" "a" "1", .telemetry "App" "a" "2"] =
          [.telemetry "App" "a" "1"] := rfl
      rw [← Published.mem_firsts_iff, placed, first, List.mem_singleton] at leads
      rw [leads] at value
      simp [Finding.telemetry] at value

end Aggregation

end ScanMerge
