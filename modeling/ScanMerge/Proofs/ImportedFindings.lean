import ScanMerge.Import.Registry
import ScanMerge.Proofs.Outcomes

/-!
The findings that importers make, whatever the bytes of an artifact are. Each is for the module of
its artifact and has the form of its kind: an issue has a severity and perhaps a place in its file,
a measure has a file and a number, and telemetry has neither file nor place.
-/

set_option autoImplicit false

namespace ScanMerge

/-- The text of an integer is its decimal numeral. -/
theorem Json.ofList_integerText (value : Int) :
    String.ofList (Json.integerText value) = toString value := by
  cases value with
  | ofNat value =>
    have notNegative : ¬ Int.ofNat value < 0 := by simp
    rw [Json.integerText, if_neg notNegative]
    rfl
  | negSucc value =>
    have negative : Int.negSucc value < 0 := Int.negSucc_lt_zero value
    rw [Json.integerText, if_pos negative, String.ofList_cons]
    rfl

namespace TextRange

/-- Lines count from one, and the range does not end before it starts. -/
structure Proper (range : TextRange) : Prop where
  starts : 1 ≤ range.startLine
  ends : range.startLine ≤ range.endLine

/-- An end before the start is raised to the start. -/
theorem proper_raised {startLine : UInt32} (notZero : startLine ≠ 0)
    (startColumn endLine endColumn : UInt32) :
    (TextRange.mk startLine startColumn (if endLine < startLine then startLine else endLine)
      endColumn).Proper := by
  constructor
  · change 1 ≤ startLine
    have positive : startLine.toNat ≠ 0 := fun zero => notZero (UInt32.toNat_inj.mp zero)
    rw [UInt32.le_iff_toNat_le]
    exact Nat.one_le_iff_ne_zero.mpr positive
  · change startLine ≤ if endLine < startLine then startLine else endLine
    split
    · exact UInt32.le_refl startLine
    · next notBefore => exact UInt32.not_lt.mp notBefore

end TextRange

/-- The finding has the form of its kind. -/
structure Finding.WellFormed (finding : Finding) : Prop where
  severity : finding.severity.isSome = true ↔ finding.kind = .issue
  location : ∀ range, finding.location = some range →
    finding.kind = .issue ∧ finding.sourceFile.isSome = true ∧ range.Proper
  telemetry : finding.kind = .telemetry → finding.sourceFile = none
  /-- A measure is a number of 32 bits other than zero. -/
  measure : finding.kind = .measure → finding.sourceFile.isSome = true ∧
    finding.location = none ∧ ∃ value : Int32, value ≠ 0 ∧ finding.message = toString value.toInt

namespace Finding

theorem wellFormed_issue {moduleKey : String} {file : Path} {key : String}
    {location : Option TextRange} (proper : ∀ range ∈ location, range.Proper) (message : String)
    (severity : Severity) :
    (issue moduleKey file key location message severity).WellFormed where
  severity := by simp [issue]
  location range inside := ⟨rfl, rfl, proper range inside⟩
  telemetry kind := by cases kind
  measure kind := by cases kind

theorem wellFormed_projectIssue (moduleKey key message : String) (severity : Severity) :
    (projectIssue moduleKey key message severity).WellFormed where
  severity := by simp [projectIssue]
  location range inside := by cases inside
  telemetry kind := by cases kind
  measure kind := by cases kind

theorem wellFormed_measure (moduleKey : String) (file : Path) (key : String) {value : Int32}
    (notZero : value ≠ 0) :
    (measure moduleKey file key (toString value.toInt)).WellFormed where
  severity := by simp [measure]
  location range inside := by cases inside
  telemetry kind := by cases kind
  measure _ := ⟨rfl, rfl, value, notZero, rfl⟩

theorem wellFormed_telemetry (moduleKey key value : String) :
    (telemetry moduleKey key value).WellFormed where
  severity := by simp [telemetry]
  location range inside := by cases inside
  telemetry _ := rfl
  measure kind := by cases kind

end Finding

/-- The findings are well-formed, and they are for the module. -/
def Contribution.Fits (contribution : Contribution) (moduleKey : String) : Prop :=
  ∀ finding ∈ contribution.findings, finding.moduleKey = moduleKey ∧ finding.WellFormed

namespace BinaryReport

theorem findings_contribution (moduleKey repository : String) (files : List File) :
    (contribution moduleKey repository files).findings =
      files.flatMap fun file => (file.contribution moduleKey repository).findings := by
  induction files with
  | nil => rfl
  | cons file rest ih =>
    rw [List.flatMap_cons, ← ih]
    rfl

theorem Range.proper_location {range : Range} {location : TextRange}
    (present : range.location? = some location) : location.Proper := by
  rw [location?] at present
  split at present
  · cases present
  · next notZero =>
    cases present
    exact TextRange.proper_raised notZero _ _ _

theorem fits_contribution (moduleKey repository : String) (files : List File) :
    (contribution moduleKey repository files).Fits moduleKey := by
  intro finding member
  rw [findings_contribution] at member
  obtain ⟨file, -, member⟩ := List.mem_flatMap.mp member
  rcases List.mem_append.mp member with member | member
  · obtain ⟨issue, -, rfl⟩ := List.mem_map.mp member
    refine ⟨rfl, Finding.wellFormed_issue ?_ _ _⟩
    intro range inside
    obtain ⟨reported, -, present⟩ := Option.bind_eq_some_iff.mp inside
    exact Range.proper_location present
  · cases given : file.metrics with
    | none =>
      rw [given] at member
      cases member
    | some metrics =>
      rw [given] at member
      obtain ⟨entry, inside, rfl⟩ := List.mem_map.mp member
      obtain ⟨-, notZero⟩ := List.mem_filter.mp inside
      rw [Json.ofList_integerText]
      exact ⟨rfl, Finding.wellFormed_measure moduleKey _ entry.1 (of_decide_eq_true notZero)⟩

theorem fits {repository moduleKey : String} {input : List UInt8} {imported : Contribution}
    (imports : importBytes repository moduleKey input = .ok imported) :
    imported.Fits moduleKey := by
  obtain ⟨files, -, rfl⟩ := exists_of_map_eq_ok imports
  exact fits_contribution moduleKey repository files

end BinaryReport

namespace Sarif

theorem Region.proper_location {region : Region} {location : TextRange}
    (present : region.location? = some location) : location.Proper := by
  rw [location?] at present
  split at present
  · cases present
  · next startLine given =>
    split at present
    · cases present
    · next notZero =>
      cases present
      exact TextRange.proper_raised notZero _ _ _

theorem fits_contribution (settings : RuleSettings) (artifact : Artifact) (results : List Result) :
    (contribution settings artifact results).Fits artifact.moduleKey := by
  intro finding member
  obtain ⟨result, -, mapped⟩ := List.mem_filterMap.mp member
  obtain ⟨key, -, rfl⟩ := Option.map_eq_some_iff.mp mapped
  rw [Result.finding]
  split
  · refine ⟨rfl, Finding.wellFormed_issue ?_ _ _⟩
    intro range inside
    obtain ⟨region, -, present⟩ := Option.bind_eq_some_iff.mp inside
    exact Region.proper_location present
  · exact ⟨rfl, Finding.wellFormed_projectIssue _ _ _ _⟩

theorem fits {settings : RuleSettings} {artifact : Artifact} {input : List UInt8}
    {imported : Contribution} (imports : importBytes settings artifact input = .ok imported) :
    imported.Fits artifact.moduleKey := by
  obtain ⟨results, -, rfl⟩ := exists_of_map_eq_ok imports
  exact fits_contribution settings artifact results

end Sarif

namespace Telemetry

theorem fits_findings {moduleKey : String} {number : Nat} {events : List Json}
    {findings : List Finding} (read : findingsFrom moduleKey number events = .ok findings) :
    ∀ finding ∈ findings, finding.moduleKey = moduleKey ∧ finding.WellFormed := by
  fun_induction findingsFrom moduleKey number events generalizing findings with
  | case1 =>
    cases read
    intro finding member
    cases member
  | case2 => cases read
  | case3 => cases read
  | case4 number members rest acceptable later others ih =>
    cases read
    intro finding member
    rcases List.mem_append.mp member with member | member
    · obtain ⟨entry, -, rfl⟩ := List.mem_map.mp member
      exact ⟨rfl, Finding.wellFormed_telemetry moduleKey entry.1 entry.2⟩
    · exact ih others finding member
  | case5 => cases read

theorem fits {moduleKey : String} {input : List UInt8} {imported : Contribution}
    (imports : importBytes moduleKey input = .ok imported) : imported.Fits moduleKey := by
  rw [importBytes] at imports
  split at imports
  · cases imports
  · split at imports
    · cases imports
    · obtain ⟨findings, read, rfl⟩ := exists_of_map_eq_ok imports
      exact fits_findings read

end Telemetry

/-- Whatever an artifact holds, its findings are well-formed and for its module. -/
theorem Importer.fits {importer : Importer} {artifact : Artifact} {input : List UInt8}
    {contribution : Contribution}
    (imports : importer.importBytes artifact input = .ok contribution) :
    contribution.Fits artifact.moduleKey := by
  cases importer with
  | binaryReport repository => exact BinaryReport.fits (eq_ok_of_mapError_eq_ok imports)
  | sarif settings => exact Sarif.fits (eq_ok_of_mapError_eq_ok imports)
  | telemetry => exact Telemetry.fits (eq_ok_of_mapError_eq_ok imports)

theorem Registry.fits {registry : Registry} {disk : Disk} {artifact : Artifact}
    {contribution : Contribution}
    (imports : registry.importArtifact disk artifact = .ok contribution) :
    contribution.Fits artifact.moduleKey := by
  rw [importArtifact] at imports
  split at imports
  · cases imports
  · rw [Importer.importArtifact] at imports
    split at imports
    · cases imports
    · exact Importer.fits imports

end ScanMerge
