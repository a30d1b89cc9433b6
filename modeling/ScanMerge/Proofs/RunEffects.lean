import ScanMerge.Proofs.PublishedFindings
import ScanMerge.Proofs.RunCourses
import ScanMerge.Proofs.Spellings
import ScanMerge.Proofs.WrittenFiles

/-!
What a run of the command line does to the disk. A run that fails, lists modules or is ended by its
arguments changes nothing; a run that writes settings creates their file, and a run that reports
puts the report where its path leads, and nothing else.
-/

set_option autoImplicit false

namespace ScanMerge.CommandLine

/-- Where the report is to go: the path that the arguments name, or else that of the settings. -/
def Arguments.outputPath (arguments : Arguments) (loaded : Settings) : Path :=
  arguments.output.getD (.ofString loaded.general.output)

theorem Arguments.output_merge (arguments : Arguments) (loaded : Settings) :
    (arguments.merge loaded).general.output = (arguments.outputPath loaded).display := by
  rw [merge, outputPath]
  cases arguments.output with
  | none =>
    rw [Option.getD_none, Path.display_ofString]
    rfl
  | some path => rfl

/-! ### What is written -/

/-- One file was put to the disk, and the path leads to it. -/
def Stores (before after : Disk) (path : Path) (content : String) : Prop :=
  ∃ location, before.Puts after location (Text.Utf8.encodeString content) ∧
    after.openAt path = .ok location

/-- The file was put where nothing had been. -/
def Creates (before after : Disk) (path : Path) (content : String) : Prop :=
  ∃ location, before.Puts after location (Text.Utf8.encodeString content) ∧
    after.openAt path = .ok location ∧ before.at? location = none

theorem stores_of_write {disk after : Disk} (grounded : disk.IsGrounded) {path : Path}
    {content : String}
    (written : disk.write path (Text.Utf8.encodeString content) = .ok after) :
    Stores disk after path content :=
  Disk.write_puts grounded written

section Effects

variable {start : Start} {arguments : Arguments}

theorem creates_of_initializes (grounded : start.disk.IsGrounded) {disk : Disk}
    (initializes : Initializes start arguments disk) :
    Creates start.disk disk Settings.defaultPath Settings.defaultText := by
  obtain ⟨location, puts, opens⟩ := stores_of_write grounded initializes.writes
  exact ⟨location, puts, opens,
    Disk.at?_eq_none_of_write grounded initializes.writes initializes.absent opens⟩

/-- The report goes where the text leads that is shown for its path. -/
theorem stores_of_reports (grounded : start.disk.IsGrounded) {loaded : Settings}
    {manifest : Manifest} {result : AnalysisResult} {disk : Disk}
    (reports : Reports start arguments loaded manifest result disk) :
    ∃ text,
      Report.text start.clock result arguments.reportFormat
        (arguments.merge loaded).report.includeMeasures = .ok text ∧
      Stores start.disk disk (.ofString (arguments.outputPath loaded).display) text := by
  have writes := reports.writes
  rw [writeReport, Arguments.output_merge] at writes
  obtain ⟨text, rendered, written⟩ := exists_of_bind_eq_ok writes
  exact ⟨text, rendered, stores_of_write grounded (eq_ok_of_mapError_eq_ok written)⟩

end Effects

/-- A start on a disk without entries. -/
def bareStart : Start :=
  ⟨.empty, none, ⟨.epoch, .zero false⟩⟩

theorem grounded_bareStart : bareStart.disk.IsGrounded :=
  Disk.isFolder_root .empty

theorem initializes_bareStart {arguments : Arguments} (init : arguments.initConfig = true) :
    Initializes bareStart arguments
      (Disk.empty.putFile [] Settings.defaultPath.bytes
        (Text.Utf8.encodeString Settings.defaultText)) where
  init
  absent := by decide +kernel
  writes := by
    have found : bareStart.disk.target Disk.linkLimit (bareStart.disk.start Settings.defaultPath)
        (Path.parts Settings.defaultPath.bytes) = .ok ([], Settings.defaultPath.bytes) := by
      decide +kernel
    exact Disk.write_of_target (by decide) (by decide) (by decide) found _

def wordsOf (texts : List String) : List Word :=
  texts.map Text.Utf8.encodeString

/-- Modules that can be scanned give a result when an artifact of theirs can be imported. -/
theorem aggregated_of_importable {settings : Settings} {disk : Disk} {manifest : Manifest}
    {scans : List ModuleScan} {session : Session}
    (scanned : (Session.ofSettings settings).scanModules settings.scanner disk manifest.modules =
      .ok (scans, session))
    (collecting : session.phase = .collecting) {artifact : Artifact} {contribution : Contribution}
    (registered : artifact ∈ session.artifacts.all)
    (imports : (Registry.standard settings).importArtifact disk artifact = .ok contribution) :
    ∃ result, aggregated settings disk manifest = .ok result := by
  obtain ⟨result, merged, -⟩ :=
    Merge.ofOutcomes_of_importable { session with phase := .draining } disk
      ⟨artifact, registered, contribution, imports⟩
  refine ⟨result, ?_⟩
  have begins : (Aggregation.start settings (.standard settings)).session =
      .ofSettings settings := rfl
  simp only [aggregated, begins, scanned]
  rw [Aggregation.finish, Aggregation.beginDraining_of_collecting collecting]
  simp only [Aggregation.drain]
  rw [Aggregation.drainProgress_of_draining rfl rfl]
  exact congrArg (Except.mapError DrainError.noValidArtifacts) merged

/-- A manifest of a module at the root with a telemetry report. -/
def telemetryManifest : Manifest :=
  ⟨[{ key := "App"
      root := ⟨[0x2F]⟩
      projectType := .main
      sources := some []
      artifacts := [⟨.telemetryJson, ⟨[0x74]⟩⟩] }]⟩

/-- A start on a disk with the manifest and the report. -/
def telemetryStart : Start :=
  ⟨Aggregation.telemetryDisk.putFile [] [0x6D] (Text.Utf8.encodeString
    "[[[\"App\",\"/\",\"main\",[],[[\"telemetry-json\",\"t\"]]]]]"), none, ⟨.epoch, .zero false⟩⟩

/-- The words name the manifest, and a path for the report that is not text. -/
def unshownWords : List Word :=
  [Text.Utf8.encodeString "--manifest=m", Text.Utf8.encodeString "--output=" ++ [0xFF]]

def unshownArguments : Arguments :=
  { manifest := some ⟨[0x6D]⟩, output := some ⟨[0xFF]⟩ }

theorem aggregated_telemetryManifest : ∃ result,
    aggregated (unshownArguments.merge {}) telemetryStart.disk telemetryManifest = .ok result := by
  have imports : (Registry.standard (unshownArguments.merge {})).importArtifact
      telemetryStart.disk ⟨"App", .telemetryJson, ⟨[0x2F, 0x74]⟩⟩ =
        .ok ⟨[.telemetry "App" "a" "1", .telemetry "App" "a" "1"], [], []⟩ := by decide +kernel
  exact aggregated_of_importable rfl rfl (List.mem_singleton_self _) imports

theorem write_unshown (content : List UInt8) :
    telemetryStart.disk.write (.ofString (unshownArguments.merge {}).general.output) content =
      .ok (telemetryStart.disk.putFile [] [0xEF, 0xBF, 0xBD] content) := by
  have output : Path.ofString (unshownArguments.merge {}).general.output =
      ⟨[0xEF, 0xBF, 0xBD]⟩ := by decide +kernel
  have found : telemetryStart.disk.target Disk.linkLimit
      (telemetryStart.disk.start ⟨[0xEF, 0xBF, 0xBD]⟩) (Path.parts [0xEF, 0xBF, 0xBD]) =
        .ok ([], [0xEF, 0xBF, 0xBD]) := by decide +kernel
  rw [output]
  exact Disk.write_of_target (by decide) (by decide) (by decide) found content

/-- The name of the file with the report is the replacement character. -/
theorem reports_unshown : ∃ result content,
    Reports telemetryStart unshownArguments {} telemetryManifest result
      (telemetryStart.disk.putFile [] [0xEF, 0xBF, 0xBD] content) := by
  obtain ⟨result, merges⟩ := aggregated_telemetryManifest
  have accepted : unshownArguments.objection? telemetryStart.disk = none := by decide +kernel
  have absent : telemetryStart.disk.exists? Settings.defaultPath = false := by decide +kernel
  have loads : loadSettings telemetryStart.disk unshownArguments = .ok {} := by
    simp only [loadSettings, unshownArguments, Settings.loadDefault, absent, Bool.false_eq_true,
      if_false]
  have reads : Manifest.load telemetryStart.disk ⟨[0x6D]⟩ = .ok telemetryManifest := by
    decide +kernel
  have directs : Directs telemetryStart unshownArguments {} telemetryManifest :=
    { accepted, loads, noInit := rfl, reads := ⟨_, rfl, reads⟩ }
  refine ⟨result, Text.Utf8.encodeString (Report.markdown telemetryStart.clock result false),
    { directs with notDry := rfl, merges, writes := ?_ }⟩
  exact congrArg (Except.mapError _) (write_unshown _)

end ScanMerge.CommandLine
