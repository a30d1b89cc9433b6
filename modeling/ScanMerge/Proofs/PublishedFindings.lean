import ScanMerge.Proofs.RegisteredArtifacts
import Mathlib.Data.List.Basic
import Mathlib.Data.String.Basic

/-!
The findings that a draining publishes, as a list built without a cache or a set of what was seen:
those of the imported artifacts by module and then in the order of registration, without the ones in
unknown or excluded files, the first of each identity.
-/

set_option autoImplicit false

namespace ScanMerge

namespace Published

/-- The artifacts that a history registered, by module and then in the order of registration. -/
def artifacts (history : List Step) : List Artifact :=
  (registeredArtifacts history).mergeSort fun earlier later => earlier.moduleKey ≤ later.moduleKey

/-- The artifacts that can be imported, with what they contribute. -/
def contributions (registry : Registry) (disk : Disk) (artifacts : List Artifact) :
    List (Artifact × Contribution) :=
  artifacts.filterMap fun artifact =>
    (registry.importArtifact disk artifact).toOption.map fun contribution =>
      (artifact, contribution)

/-- The paths that are said to be generated, with the modules of the artifacts that say so. -/
def hints (contributions : List (Artifact × Contribution)) : List (String × Path) :=
  contributions.flatMap fun (artifact, contribution) =>
    contribution.generatedFiles.map fun path => (artifact.moduleKey, path)

/-- The findings of artifacts, with the modules of the artifacts. -/
def reported (contributions : List (Artifact × Contribution)) : List (String × Finding) :=
  contributions.flatMap fun (artifact, contribution) =>
    contribution.findings.map fun finding => (artifact.moduleKey, finding)

/-- The files of findings, with their modules. -/
def files (reported : List (String × Finding)) : List (String × Path) :=
  reported.filterMap fun (moduleKey, finding) =>
    finding.sourceFile.map fun path => (moduleKey, path)

/-- The paths that are looked up, in order: generated files come before the files of findings. -/
def lookups (contributions : List (Artifact × Contribution)) : List (String × Path) :=
  hints contributions ++ files (reported contributions)

/-- The looked-up path is a spelling of a module's path. -/
def spells (moduleKey : String) (path : Path) (lookup : String × Path) : Bool :=
  lookup.1 = moduleKey && lookup.2.same path

/-- The spelling of a module's path that is met first. -/
def firstSpelling (lookups : List (String × Path)) (moduleKey : String) (path : Path) : Path :=
  ((lookups.find? (spells moduleKey path)).map Prod.snd).getD path

def canonical? (session : Session) (disk : Disk) (lookups : List (String × Path))
    (moduleKey : String) (path : Path) : Option Path :=
  session.resolve? disk moduleKey (firstSpelling lookups moduleKey path)

/-- The canonical paths of the files that are said to be generated. -/
def generated (session : Session) (disk : Disk) (contributions : List (Artifact × Contribution)) :
    List Path :=
  (hints contributions).filterMap fun (moduleKey, path) =>
    canonical? session disk (lookups contributions) moduleKey path

/-- Findings in a file are kept when it is recorded, not excluded, and not said to be generated. -/
def keeps (session : Session) (generated : List Path) (file : Path) : Bool :=
  (session.files.find? file).any fun record =>
    !record.generated && !record.wrongEncoding && !generated.any fun hint => hint.same file

/-- A finding with the canonical path of its file, unless it is dropped. -/
def place? (session : Session) (disk : Disk) (lookups : List (String × Path))
    (generated : List Path) (moduleKey : String) (finding : Finding) : Option Finding :=
  match finding.sourceFile with
  | none => some finding
  | some path =>
    ((canonical? session disk lookups moduleKey path).filter (keeps session generated)).map
      fun file => { finding with sourceFile := some file }

/-- The first finding of each identity. -/
def firsts (findings : List Finding) : List Finding :=
  findings.eraseDupsBy fun later earlier => later.identity = earlier.identity

def findingsOf (session : Session) (disk : Disk) (contributions : List (Artifact × Contribution)) :
    List Finding :=
  let placed := (reported contributions).filterMap fun (moduleKey, finding) =>
    place? session disk (lookups contributions) (generated session disk contributions)
      moduleKey finding
  (firsts placed).map fun finding =>
    { finding with
      projectType :=
        ((session.modules.get? finding.moduleKey).map Module.projectType).getD .unknown }

/-- What is said of the findings of a result: which they are, and what follows for their identities
and files. -/
structure Publishes (session : Session) (disk : Disk)
    (contributions : List (Artifact × Contribution)) (result : AnalysisResult) : Prop where
  findings : result.findings = findingsOf session disk contributions
  distinct : result.findings.Pairwise fun earlier later => earlier.identity ≠ later.identity
  /-- Files of findings are recorded, and neither excluded nor said to be generated. -/
  kept : ∀ finding ∈ result.findings, ∀ file, finding.sourceFile = some file →
    keeps session (generated session disk contributions) file = true

theorem firsts_cons (finding : Finding) (rest : List Finding) :
    firsts (finding :: rest) =
      finding :: firsts (rest.filter fun later => later.identity ≠ finding.identity) := by
  rw [firsts, List.eraseDupsBy_cons, firsts]
  congr 3
  funext later
  simp

/-- Each round drops at least the finding that it keeps, so the rest gets shorter. -/
theorem firsts_induction {motive : List Finding → Prop} (nil : motive [])
    (cons : ∀ finding rest,
      motive (rest.filter fun later => later.identity ≠ finding.identity) →
      motive (finding :: rest)) (findings : List Finding) : motive findings := by
  induction length : findings.length using Nat.strongRecOn generalizing findings with
  | ind bound ih =>
    cases findings with
    | nil => exact nil
    | cons finding rest =>
      apply cons
      have shorter := List.length_filter_le (fun later => later.identity ≠ finding.identity) rest
      rw [List.length_cons] at length
      exact ih _ (by omega) _ rfl

theorem mem_of_mem_firsts {findings : List Finding} {finding : Finding}
    (member : finding ∈ firsts findings) : finding ∈ findings := by
  induction findings using firsts_induction with
  | nil => exact member
  | cons first rest ih =>
    rw [firsts_cons] at member
    rcases List.mem_cons.mp member with rfl | member
    · exact List.mem_cons_self
    · exact List.mem_cons_of_mem _ (List.mem_filter.mp (ih member)).1

theorem firsts_pairwise (findings : List Finding) :
    (firsts findings).Pairwise fun earlier later => earlier.identity ≠ later.identity := by
  induction findings using firsts_induction with
  | nil => exact .nil
  | cons first rest ih =>
    rw [firsts_cons]
    refine List.pairwise_cons.mpr ⟨?_, ih⟩
    intro later member
    have different := (List.mem_filter.mp (mem_of_mem_firsts member)).2
    exact (of_decide_eq_true different).symm

theorem keeps_of_place {session : Session} {disk : Disk} {lookups : List (String × Path)}
    {generated : List Path} {moduleKey : String} {finding placed : Finding}
    (place : place? session disk lookups generated moduleKey finding = some placed) {file : Path}
    (inFile : placed.sourceFile = some file) : keeps session generated file = true := by
  rw [place?] at place
  cases reported : finding.sourceFile with
  | none =>
    rw [reported] at place
    cases place
    rw [reported] at inFile
    cases inFile
  | some path =>
    rw [reported] at place
    obtain ⟨canonical, found, rfl⟩ := Option.map_eq_some_iff.mp place
    cases inFile
    exact (Option.filter_eq_some_iff.mp found).2

/-- What follows for a result with these findings. -/
theorem publishes_of_findings {session : Session} {disk : Disk}
    {contributions : List (Artifact × Contribution)} {result : AnalysisResult}
    (findings : result.findings = findingsOf session disk contributions) :
    Publishes session disk contributions result := by
  refine ⟨findings, ?_, ?_⟩
  · rw [findings, findingsOf, List.pairwise_map]
    exact firsts_pairwise _
  · intro finding member file inFile
    rw [findings, findingsOf] at member
    obtain ⟨placed, first, rfl⟩ := List.mem_map.mp member
    obtain ⟨entry, -, place⟩ := List.mem_filterMap.mp (mem_of_mem_firsts first)
    exact keeps_of_place place inFile

theorem spells_self (moduleKey : String) (path : Path) :
    spells moduleKey path (moduleKey, path) = true := by
  simp [spells]

theorem spells_iff {moduleKey : String} {path : Path} {lookup : String × Path} :
    spells moduleKey path lookup = true ↔
      (moduleKey, path.segments) = (lookup.1, lookup.2.segments) := by
  simp only [spells, Path.same, Bool.and_eq_true, decide_eq_true_eq, Prod.mk.injEq]
  exact and_congr eq_comm eq_comm

theorem spells_congr {moduleKey otherKey : String} {path other : Path}
    (same : (moduleKey, path.segments) = (otherKey, other.segments)) :
    spells moduleKey path = spells otherKey other := by
  funext lookup
  rw [Bool.eq_iff_iff, spells_iff, spells_iff, same]

end Published

namespace Merge

namespace Sifted

/-- The number of findings, kept or dropped. -/
def total (sifted : Sifted) : Nat :=
  sifted.kept.length + sifted.dropped

@[simp] theorem kept_keep (sifted : Sifted) (finding : Finding) :
    (sifted.keep finding).kept = finding :: sifted.kept := rfl

@[simp] theorem kept_drop (sifted : Sifted) : sifted.drop.kept = sifted.kept := rfl

@[simp] theorem total_keep (sifted : Sifted) (finding : Finding) :
    (sifted.keep finding).total = sifted.total + 1 :=
  Nat.add_right_comm _ 1 _

@[simp] theorem total_drop (sifted : Sifted) : sifted.drop.total = sifted.total + 1 := rfl

end Sifted

/-- The known answers are those for the first spellings among the paths that were met. -/
def Resolutions.Answer (known : Resolutions) (session : Session) (disk : Disk)
    (met : List (String × Path)) : Prop :=
  ∀ moduleKey path, known.entries.lookup (moduleKey, path.segments) =
    (met.find? (Published.spells moduleKey path)).map fun first =>
      session.resolve? disk moduleKey first.2

section Resolutions

variable {session : Session} {disk : Disk}

theorem Resolutions.answer_empty (session : Session) (disk : Disk) :
    Resolutions.empty.Answer session disk [] := by
  intro moduleKey path
  rfl

variable {known : Resolutions} {met : List (String × Path)}
  (answers : known.Answer session disk met) (moduleKey : String) (path : Path)

include answers

/-- Whatever is met later does not change an answer. -/
theorem Resolutions.resolve_fst (later : List (String × Path)) :
    (known.resolve session disk moduleKey path).1 =
      Published.canonical? session disk (met ++ (moduleKey, path) :: later) moduleKey path := by
  have found := answers moduleKey path
  cases first : met.find? (Published.spells moduleKey path) with
  | some entry =>
    rw [first] at found
    simp only [resolve, found, Option.map_some, Published.canonical?, Published.firstSpelling,
      List.find?_append, first, Option.some_or, Option.getD_some]
  | none =>
    rw [first] at found
    simp only [resolve, found, Option.map_none, Published.canonical?, Published.firstSpelling,
      List.find?_append, first, Option.none_or, List.find?_cons, Published.spells_self,
      Option.map_some, Option.getD_some]

theorem Resolutions.resolve_snd :
    (known.resolve session disk moduleKey path).2.Answer session disk
      (met ++ [(moduleKey, path)]) := by
  intro otherKey other
  have found := answers moduleKey path
  have otherFound := answers otherKey other
  rw [List.find?_append]
  by_cases same : (otherKey, other.segments) = (moduleKey, path.segments)
  · have congr := Published.spells_congr same
    rw [congr] at otherFound ⊢
    cases first : met.find? (Published.spells moduleKey path) with
    | some entry =>
      rw [first] at found otherFound
      simp only [resolve, found, Option.map_some, otherFound, Option.some_or]
    | none =>
      rw [first] at found
      obtain ⟨rfl, segments⟩ := Prod.mk.inj same
      simp only [resolve, found, Option.map_none, Option.none_or, segments, List.lookup_cons_self,
        List.find?_cons, Published.spells_self, Option.map_some]
  · have notMet : Published.spells otherKey other (moduleKey, path) = false := by
      rw [Bool.eq_false_iff]
      exact fun spells => same (Published.spells_iff.mp spells)
    have different : ((otherKey, other.segments) == (moduleKey, path.segments)) = false := by
      rw [beq_eq_false_iff_ne]
      exact same
    rw [List.find?_cons, notMet, List.find?_nil, Option.or_none, ← otherFound]
    simp only [resolve]
    split
    · rfl
    · rw [List.lookup_cons, different]

end Resolutions

section Passes

variable {session : Session} {disk : Disk}

theorem resolveAll_fst {known : Resolutions} {met : List (String × Path)}
    (answers : known.Answer session disk met) (paths later : List (String × Path)) :
    (resolveAll session disk known paths).1 = paths.filterMap fun (moduleKey, path) =>
      Published.canonical? session disk (met ++ paths ++ later) moduleKey path := by
  induction paths generalizing known met with
  | nil => rfl
  | cons head rest ih =>
    obtain ⟨moduleKey, path⟩ := head
    have first := Resolutions.resolve_fst answers moduleKey path (rest ++ later)
    have others := ih (Resolutions.resolve_snd answers moduleKey path)
    have order : met ++ [(moduleKey, path)] ++ rest ++ later =
        met ++ (moduleKey, path) :: (rest ++ later) := by simp
    rw [order] at others
    simp only [resolveAll, List.append_assoc, List.cons_append, List.filterMap_cons, first, others]
    cases Published.canonical? session disk (met ++ (moduleKey, path) :: (rest ++ later))
      moduleKey path with
    | none => rfl
    | some canonical => rfl

theorem resolveAll_snd {known : Resolutions} {met : List (String × Path)}
    (answers : known.Answer session disk met) (paths : List (String × Path)) :
    (resolveAll session disk known paths).2.Answer session disk (met ++ paths) := by
  induction paths generalizing known met with
  | nil => simpa [resolveAll] using answers
  | cons head rest ih =>
    obtain ⟨moduleKey, path⟩ := head
    have others := ih (Resolutions.resolve_snd answers moduleKey path)
    simpa [resolveAll] using others

theorem isKept_eq (generated : List Path) (file : Path) :
    isKept session generated file = Published.keeps session generated file := by
  simp only [isKept, Published.keeps]
  cases session.files.find? file with
  | none => rfl
  | some record => simp only [FileRecord.isExcluded, Bool.not_or, Option.any_some]

theorem kept_located {known : Resolutions} {met : List (String × Path)}
    (answers : known.Answer session disk met) (generated : List Path)
    (reported : List (String × Finding)) :
    (located session disk generated known reported).kept =
      reported.filterMap fun (moduleKey, finding) =>
        Published.place? session disk (met ++ Published.files reported) generated
          moduleKey finding := by
  induction reported generalizing known met with
  | nil => rfl
  | cons head rest ih =>
    obtain ⟨moduleKey, finding⟩ := head
    rw [List.filterMap_cons]
    cases file : finding.sourceFile with
    | none =>
      have files : Published.files ((moduleKey, finding) :: rest) = Published.files rest := by
        simp [Published.files, file]
      have placed : Published.place? session disk (met ++ Published.files rest) generated
          moduleKey finding = some finding := by
        simp only [Published.place?, file]
      rw [files]
      simp only [located, file, placed, Sifted.kept_keep, ih answers]
    | some path =>
      have files : met ++ Published.files ((moduleKey, finding) :: rest) =
          met ++ (moduleKey, path) :: Published.files rest := by
        simp [Published.files, file]
      have first := Resolutions.resolve_fst answers moduleKey path (Published.files rest)
      have others := ih (Resolutions.resolve_snd answers moduleKey path)
      rw [List.append_assoc, List.singleton_append] at others
      rw [files, ← others]
      simp only [located, file, first, Published.place?, isKept_eq]
      cases Published.canonical? session disk (met ++ (moduleKey, path) :: Published.files rest)
        moduleKey path with
      | none => rfl
      | some canonical =>
        by_cases kept : Published.keeps session generated canonical
        · simp [Option.filter, kept]
        · simp [Option.filter, kept]

end Passes

/-- No finding is lost: those that are not kept are counted. -/
theorem total_located (session : Session) (disk : Disk) (generated : List Path)
    (known : Resolutions) (reported : List (String × Finding)) :
    (located session disk generated known reported).total = reported.length := by
  induction reported generalizing known with
  | nil => rfl
  | cons head rest ih =>
    obtain ⟨moduleKey, finding⟩ := head
    rw [located, List.length_cons]
    split
    · rw [Sifted.total_keep, ih]
    · dsimp only
      split
      · rw [Sifted.total_drop, ih]
      · split
        · rw [Sifted.total_keep, ih]
        · rw [Sifted.total_drop, ih]

/-- What was seen before only takes findings away. -/
theorem kept_distinct_eq (seen : List Finding.Identity) (findings : List Finding) :
    (distinct seen findings).kept =
      Published.firsts (findings.filter fun finding => finding.identity ∉ seen) := by
  induction findings generalizing seen with
  | nil => rfl
  | cons finding rest ih =>
    by_cases before : finding.identity ∈ seen
    · rw [distinct, if_pos before, Sifted.kept_drop, ih,
        List.filter_cons_of_neg (by simpa using before)]
    · rw [distinct, if_neg before, Sifted.kept_keep, ih,
        List.filter_cons_of_pos (by simpa using before), Published.firsts, Published.firsts,
        List.eraseDupsBy_cons, List.filter_filter]
      congr 3
      funext other
      simp [List.mem_cons, not_or]

theorem kept_distinct (findings : List Finding) :
    (distinct [] findings).kept = Published.firsts findings := by
  rw [kept_distinct_eq]
  congr 1
  exact List.filter_eq_self.mpr (by simp)

theorem total_distinct (seen : List Finding.Identity) (findings : List Finding) :
    (distinct seen findings).total = findings.length := by
  induction findings generalizing seen with
  | nil => rfl
  | cons finding rest ih =>
    rw [distinct, List.length_cons]
    split
    · rw [Sifted.total_drop, ih]
    · rw [Sifted.total_keep, ih]

theorem imported_eq (registry : Registry) (disk : Disk) (artifacts : List Artifact) :
    (outcomes registry disk artifacts).filterMap Outcome.imported? =
      (Published.contributions registry disk artifacts).map fun (artifact, contribution) =>
        ⟨artifact, contribution⟩ := by
  simp only [outcomes, Published.contributions, List.filterMap_map, List.map_filterMap]
  congr 1
  funext artifact
  simp only [Function.comp_apply, Outcome.imported?]
  cases registry.importArtifact disk artifact with
  | ok contribution => rfl
  | error error => rfl

variable (session : Session) (disk : Disk) (contributions : List (Artifact × Contribution))

theorem generatedFiles_eq :
    generatedFiles (contributions.map fun (artifact, contribution) => ⟨artifact, contribution⟩) =
      Published.hints contributions := by
  simp only [generatedFiles, Published.hints, List.flatMap_map]

theorem reported_eq :
    reported (contributions.map fun (artifact, contribution) => ⟨artifact, contribution⟩) =
      Published.reported contributions := by
  simp only [reported, Published.reported, List.flatMap_map]

theorem resultOf_findings (artifactCount : Nat) (skipped : List Warning) :
    (resultOf session disk artifactCount
      (contributions.map fun (artifact, contribution) => ⟨artifact, contribution⟩)
      skipped).findings = Published.findingsOf session disk contributions := by
  have hints := resolveAll_fst (Resolutions.answer_empty session disk)
    (Published.hints contributions) (Published.files (Published.reported contributions))
  have answers := resolveAll_snd (Resolutions.answer_empty session disk)
    (Published.hints contributions)
  rw [List.nil_append] at hints answers
  have kept := kept_located answers (Published.generated session disk contributions)
    (Published.reported contributions)
  simp only [resultOf, generatedFiles_eq, reported_eq, kept_distinct]
  rw [hints]
  change (Published.firsts (Merge.located session disk
    (Published.generated session disk contributions) _ _).kept).map _ = _
  rw [kept]
  rfl

/-- Merging gives a result when an artifact can be imported. -/
theorem ofOutcomes_of_importable {registry : Registry} {artifacts : List Artifact}
    (importable : ∃ artifact ∈ artifacts, ∃ contribution,
      registry.importArtifact disk artifact = .ok contribution) :
    ∃ result, ofOutcomes session disk (outcomes registry disk artifacts) = .ok result ∧
      result.findings =
        Published.findingsOf session disk (Published.contributions registry disk artifacts) := by
  obtain ⟨artifact, member, contribution, imports⟩ := importable
  have contributes :
      (artifact, contribution) ∈ Published.contributions registry disk artifacts := by
    rw [Published.contributions, List.mem_filterMap]
    refine ⟨artifact, member, ?_⟩
    rw [imports]
    rfl
  have imported :
      ((outcomes registry disk artifacts).filterMap Outcome.imported?).isEmpty = false := by
    rw [imported_eq, List.isEmpty_eq_false_iff]
    exact fun none => List.ne_nil_of_mem contributes (List.map_eq_nil_iff.mp none)
  rw [ofOutcomes, imported, imported_eq]
  exact ⟨_, rfl, resultOf_findings session disk _ _ _⟩

end Merge

namespace Aggregation

theorem Becomes.registry {aggregation after : Aggregation} {call : Call}
    (becomes : aggregation.Becomes call after) : after.registry = aggregation.registry := by
  cases becomes <;> rfl

theorem registry_run (aggregation : Aggregation) (calls : List (Disk × Call)) :
    (aggregation.run calls).registry = aggregation.registry := by
  induction calls generalizing aggregation with
  | nil => rfl
  | cons head rest ih =>
    rw [run, ih]
    exact (aggregation.perform_becomes head.1 head.2).registry

/-- Draining after any calls publishes exactly the listed findings, provided that some registered
artifact can be imported. -/
theorem drain_publishes {settings : Settings} {registry : Registry} {calls : List (Disk × Call)}
    (draining : ((start settings registry).run calls).session.phase = .draining) {disk : Disk}
    (importable : ∃ artifact ∈ registeredArtifacts ((start settings registry).history calls),
      ∃ contribution, registry.importArtifact disk artifact = .ok contribution) :
    ∃ result, (((start settings registry).run calls).drain disk).1 = .ok result ∧
      Published.Publishes ((start settings registry).run calls).session disk
        (Published.contributions registry disk
          (Published.artifacts ((start settings registry).history calls))) result := by
  have reached : ((start settings registry).run calls).Reached := ⟨settings, registry, calls, rfl⟩
  have inOrder : ∃ artifact ∈ Published.artifacts ((start settings registry).history calls),
      ∃ contribution, registry.importArtifact disk artifact = .ok contribution := by
    obtain ⟨artifact, member, imports⟩ := importable
    exact ⟨artifact, List.mem_mergeSort.mpr member, imports⟩
  obtain ⟨result, merged, findings⟩ := Merge.ofOutcomes_of_importable
    ((start settings registry).run calls).session disk inOrder
  refine ⟨result, ?_, Published.publishes_of_findings findings⟩
  rw [drain_of_draining reached.coherent draining, Aggregation.merged, registry_run,
    artifacts_run settings registry calls]
  exact congrArg (Except.mapError DrainError.noValidArtifacts) merged

/-- A disk whose root holds a telemetry report with one event, twice. -/
def telemetryDisk : Disk :=
  let event := [0x7B, 0x22, 0x61, 0x22, 0x3A, 0x31, 0x7D]
  Disk.empty.putFile [] [0x74] (event ++ event)

/-- A module registers the report, and draining begins. -/
def telemetryCalls : List (Disk × Call) :=
  [(telemetryDisk, .register (.module ⟨"App", ⟨[0x2F]⟩, .main⟩)),
    (telemetryDisk, .register (.artifact "App" .telemetryJson ⟨[0x74]⟩)),
    (telemetryDisk, .beginDraining)]

theorem drain_publishes_telemetry :
    ∃ result, (((start {} (Registry.standard {})).run telemetryCalls).drain telemetryDisk).1 =
        .ok result ∧
      result.findings = [{ Finding.telemetry "App" "a" "1" with projectType := .main }] := by
  have registered : registeredArtifacts ((start {} (Registry.standard {})).history telemetryCalls) =
      [⟨"App", .telemetryJson, ⟨[0x2F, 0x74]⟩⟩] := rfl
  have imports : (Registry.standard {}).importArtifact telemetryDisk
      ⟨"App", .telemetryJson, ⟨[0x2F, 0x74]⟩⟩ =
        .ok ⟨[.telemetry "App" "a" "1", .telemetry "App" "a" "1"], [], []⟩ := by decide +kernel
  have inOrder : Published.artifacts ((start {} (Registry.standard {})).history telemetryCalls) =
      [⟨"App", .telemetryJson, ⟨[0x2F, 0x74]⟩⟩] := by
    rw [Published.artifacts, registered, List.mergeSort_singleton]
  have draining : ((start {} (Registry.standard {})).run telemetryCalls).session.phase =
      .draining := rfl
  have importable : ∃ artifact ∈ registeredArtifacts
      ((start {} (Registry.standard {})).history telemetryCalls), ∃ contribution,
        (Registry.standard {}).importArtifact telemetryDisk artifact = .ok contribution := by
    rw [registered]
    exact ⟨_, List.mem_singleton_self _, _, imports⟩
  obtain ⟨result, drained, publishes⟩ := drain_publishes draining importable
  refine ⟨result, drained, ?_⟩
  rw [publishes.findings, inOrder, Published.contributions, List.filterMap_cons, imports]
  rfl

end Aggregation

end ScanMerge
