import ScanMerge.CommandLine.Run

/-!
How a run of the command line can end. The courses of a run are told apart by what happens on the
way, and every run takes one of them; its status and the disk that it leaves are read off the
course.
-/

set_option autoImplicit false

namespace ScanMerge.CommandLine

/-- Scans the modules of a manifest and merges their artifacts. -/
def aggregated (settings : Settings) (disk : Disk) (manifest : Manifest) :
    Except DrainError AnalysisResult :=
  let aggregation := Aggregation.start settings (.standard settings)
  match aggregation.session.scanModules settings.scanner disk manifest.modules with
  | .error error => .error (.refused error)
  | .ok (_, session) => ((aggregation.withSession session).finish disk).1

/-- Nothing is wrong with the arguments, and settings were loaded for them. -/
structure Configures (start : Start) (arguments : Arguments) (loaded : Settings) : Prop where
  accepted : arguments.objection? start.disk = none
  noInit : arguments.initConfig = false
  loads : loadSettings start.disk arguments = .ok loaded

/-- The manifest that the arguments name was loaded, too. -/
structure Directs (start : Start) (arguments : Arguments) (loaded : Settings)
    (manifest : Manifest) : Prop extends Configures start arguments loaded where
  reads : ∃ path, arguments.manifest = some path ∧ Manifest.load start.disk path = .ok manifest

/-- A result of the manifest was published. -/
structure Publishes (start : Start) (arguments : Arguments) (loaded : Settings)
    (manifest : Manifest) (result : AnalysisResult) : Prop
    extends Directs start arguments loaded manifest where
  notDry : arguments.dryRun = false
  merges : aggregated (arguments.merge loaded) start.disk manifest = .ok result

/-- The report of a result as the arguments and settings ask for it, written to a file. -/
def writeReport (start : Start) (arguments : Arguments) (loaded : Settings)
    (result : AnalysisResult) : Except ReportError Disk :=
  let settings := arguments.merge loaded
  Report.write start.disk start.clock result arguments.reportFormat settings.report.includeMeasures
    (.ofString settings.general.output)

/-- A result of the manifest was published, and its report was written. -/
structure Reports (start : Start) (arguments : Arguments) (loaded : Settings)
    (manifest : Manifest) (result : AnalysisResult) (disk : Disk) : Prop
    extends Publishes start arguments loaded manifest result where
  writes : writeReport start arguments loaded result = .ok disk

/-- What makes a run fail. -/
inductive Fails (start : Start) (arguments : Arguments) : Prop
  /-- The arguments can be read, but not used. -/
  | usage (objection : Arguments.Objection)
      (objects : arguments.objection? start.disk = some objection)
  /-- A settings file is there already. -/
  | settingsThere (accepted : arguments.objection? start.disk = none)
      (init : arguments.initConfig = true)
      (present : start.disk.exists? Settings.defaultPath = true)
  | settingsUnwritable (error : IoError) (accepted : arguments.objection? start.disk = none)
      (init : arguments.initConfig = true)
      (absent : start.disk.exists? Settings.defaultPath = false)
      (fails : start.disk.write Settings.defaultPath
        (Text.Utf8.encodeString Settings.defaultText) = .error error)
  | configuration (error : SettingsError) (accepted : arguments.objection? start.disk = none)
      (noInit : arguments.initConfig = false)
      (fails : loadSettings start.disk arguments = .error error)
  | manifest (loaded : Settings) (path : Path) (error : ManifestError)
      (configures : Configures start arguments loaded)
      (named : arguments.manifest = some path)
      (fails : Manifest.load start.disk path = .error error)
  | aggregation (loaded : Settings) (manifest : Manifest) (error : DrainError)
      (directs : Directs start arguments loaded manifest) (notDry : arguments.dryRun = false)
      (fails : aggregated (arguments.merge loaded) start.disk manifest = .error error)
  | report (loaded : Settings) (manifest : Manifest) (result : AnalysisResult)
      (error : ReportError) (publishes : Publishes start arguments loaded manifest result)
      (fails : writeReport start arguments loaded result = .error error)

/-- A settings file with the defaults was written. -/
structure Initializes (start : Start) (arguments : Arguments) (disk : Disk) : Prop where
  init : arguments.initConfig = true
  absent : start.disk.exists? Settings.defaultPath = false
  writes : start.disk.write Settings.defaultPath
    (Text.Utf8.encodeString Settings.defaultText) = .ok disk

/-- The modules of the manifest were listed. -/
structure Lists (start : Start) (arguments : Arguments) (loaded : Settings)
    (manifest : Manifest) : Prop extends Directs start arguments loaded manifest where
  dry : arguments.dryRun = true

section Courses

variable {start : Start} {arguments : Arguments}

theorem objection?_of_initConfig (init : arguments.initConfig = true) :
    arguments.objection? start.disk = none := by
  rw [Arguments.objection?, if_pos init]

/-- Arguments with which nothing is wrong name a manifest, unless settings are to be written. -/
theorem exists_manifest_of_accepted (accepted : arguments.objection? start.disk = none)
    (noInit : arguments.initConfig = false) : ∃ path, arguments.manifest = some path := by
  cases named : arguments.manifest with
  | some path => exact ⟨path, rfl⟩
  | none =>
    rw [Arguments.objection?, noInit, if_neg Bool.false_ne_true, named] at accepted
    cases accepted

theorem aggregate_eq (settings : Settings) (manifest : Manifest) :
    aggregate start arguments settings manifest =
      let announced := if arguments.quiet then "" else announcement settings manifest
      match aggregated settings start.disk manifest with
      | .error error => .failed start.disk announced (drainErrorText error)
      | .ok result =>
        let path := Path.ofString settings.general.output
        match Report.write start.disk start.clock result arguments.reportFormat
            settings.report.includeMeasures path with
        | .error error => .failed start.disk announced (errorText error.fullMessage)
        | .ok disk =>
          let output := announced ++
            summaryText start.clock result arguments.reportFormat path
          if settings.report.failOnWarnings && !result.isClean then
            { status := statusWarnings
              output
              errors :=
                s!"\n⛔ {Report.number result.warnings.length} warnings reported. " ++
                  "Failing (exit code 2).\n"
              disk }
          else
            ⟨statusOk, output, "", disk⟩ := by
  simp only [aggregate, aggregated]
  cases (Aggregation.start settings (.standard settings)).session.scanModules settings.scanner
      start.disk manifest.modules with
  | error error => rfl
  | ok scanned => rfl

theorem runWithArguments_of_configures {loaded : Settings}
    (configures : Configures start arguments loaded) :
    runWithArguments start arguments =
      runWithSettings start arguments (arguments.merge loaded) := by
  simp only [runWithArguments, configures.accepted, configures.noInit, configures.loads,
    Bool.false_eq_true, if_false]

theorem runWithArguments_of_directs {loaded : Settings} {manifest : Manifest}
    (directs : Directs start arguments loaded manifest) :
    runWithArguments start arguments =
      if arguments.dryRun then
        ⟨statusOk, listing (arguments.merge loaded).scanner start.disk manifest, "", start.disk⟩
      else
        aggregate start arguments (arguments.merge loaded) manifest := by
  obtain ⟨path, named, load⟩ := directs.reads
  simp only [runWithArguments_of_configures directs.toConfigures, runWithSettings, named, load]

/-- The status that a written report leads to. -/
def reportStatus (settings : Settings) (result : AnalysisResult) : Nat :=
  if settings.report.failOnWarnings && !result.isClean then statusWarnings else statusOk

theorem run_of_reports {loaded : Settings} {manifest : Manifest} {result : AnalysisResult}
    {disk : Disk} (reports : Reports start arguments loaded manifest result disk) :
    (runWithArguments start arguments).status = reportStatus (arguments.merge loaded) result ∧
      (runWithArguments start arguments).disk = disk := by
  have written := reports.writes
  rw [writeReport] at written
  rw [runWithArguments_of_directs reports.toDirects, reports.notDry, if_neg Bool.false_ne_true,
    aggregate_eq, reports.merges]
  simp only [written, reportStatus]
  split <;> exact ⟨rfl, rfl⟩

theorem run_of_initializes {disk : Disk} (initializes : Initializes start arguments disk) :
    (runWithArguments start arguments).status = statusOk ∧
      (runWithArguments start arguments).disk = disk := by
  simp only [runWithArguments, objection?_of_initConfig initializes.init, initializes.init, if_true,
    writeSettings, initializes.absent, Bool.false_eq_true, if_false, initializes.writes, and_self]

theorem run_of_lists {loaded : Settings} {manifest : Manifest}
    (lists : Lists start arguments loaded manifest) :
    (runWithArguments start arguments).status = statusOk ∧
      (runWithArguments start arguments).disk = start.disk := by
  rw [runWithArguments_of_directs lists.toDirects, lists.dry, if_pos rfl]
  exact ⟨rfl, rfl⟩

theorem run_of_fails (fails : Fails start arguments) :
    (runWithArguments start arguments).status = statusFailed ∧
      (runWithArguments start arguments).disk = start.disk := by
  cases fails with
  | usage objection objects =>
    simp only [runWithArguments, objects]
    exact ⟨rfl, rfl⟩
  | settingsThere accepted init present =>
    simp only [runWithArguments, accepted, init, if_true, writeSettings, present]
    exact ⟨rfl, rfl⟩
  | settingsUnwritable error accepted init absent fails =>
    simp only [runWithArguments, accepted, init, if_true, writeSettings, absent,
      Bool.false_eq_true, if_false, fails]
    exact ⟨rfl, rfl⟩
  | configuration error accepted noInit fails =>
    simp only [runWithArguments, accepted, noInit, Bool.false_eq_true, if_false, fails]
    exact ⟨rfl, rfl⟩
  | manifest loaded path error configures named fails =>
    simp only [runWithArguments_of_configures configures, runWithSettings, named, fails]
    exact ⟨rfl, rfl⟩
  | aggregation loaded manifest error directs notDry fails =>
    rw [runWithArguments_of_directs directs, notDry, if_neg Bool.false_ne_true, aggregate_eq, fails]
    exact ⟨rfl, rfl⟩
  | report loaded manifest result error publishes fails =>
    rw [writeReport] at fails
    rw [runWithArguments_of_directs publishes.toDirects, publishes.notDry,
      if_neg Bool.false_ne_true, aggregate_eq, publishes.merges]
    simp only [fails]
    exact ⟨rfl, rfl⟩

/-- How a run with arguments that can be read ends. -/
inductive Course (start : Start) (arguments : Arguments) : Prop
  | fails (fails : Fails start arguments)
  | initializes (disk : Disk) (initializes : Initializes start arguments disk)
  | lists (loaded : Settings) (manifest : Manifest)
      (lists : Lists start arguments loaded manifest)
  | reports (loaded : Settings) (manifest : Manifest) (result : AnalysisResult) (disk : Disk)
      (reports : Reports start arguments loaded manifest result disk)

/-- Every run takes a course. -/
theorem course (start : Start) (arguments : Arguments) : Course start arguments := by
  cases accepted : arguments.objection? start.disk with
  | some objection => exact .fails (.usage objection accepted)
  | none =>
    cases noInit : arguments.initConfig with
    | true =>
      cases absent : start.disk.exists? Settings.defaultPath with
      | true => exact .fails (.settingsThere accepted noInit absent)
      | false =>
        cases writes : start.disk.write Settings.defaultPath
            (Text.Utf8.encodeString Settings.defaultText) with
        | error error => exact .fails (.settingsUnwritable error accepted noInit absent writes)
        | ok disk => exact .initializes disk ⟨noInit, absent, writes⟩
    | false =>
      cases loads : loadSettings start.disk arguments with
      | error error => exact .fails (.configuration error accepted noInit loads)
      | ok loaded =>
        have configures : Configures start arguments loaded := ⟨accepted, noInit, loads⟩
        obtain ⟨path, named⟩ := exists_manifest_of_accepted accepted noInit
        cases load : Manifest.load start.disk path with
        | error error => exact .fails (.manifest loaded path error configures named load)
        | ok manifest =>
          have directs : Directs start arguments loaded manifest :=
            { configures with reads := ⟨path, named, load⟩ }
          cases dry : arguments.dryRun with
          | true => exact .lists loaded manifest { directs with dry }
          | false =>
            cases merges : aggregated (arguments.merge loaded) start.disk manifest with
            | error error => exact .fails (.aggregation loaded manifest error directs dry merges)
            | ok result =>
              have publishes : Publishes start arguments loaded manifest result :=
                { directs with notDry := dry, merges }
              cases writes : writeReport start arguments loaded result with
              | error error =>
                exact .fails (.report loaded manifest result error publishes writes)
              | ok disk => exact .reports loaded manifest result disk { publishes with writes }

end Courses

/-- The arguments cannot be read, and neither help nor the version is asked for. -/
def IsUnusable (start : Start) (words : List Word) : Prop :=
  ∃ error, Arguments.ofWords start.environment words = .error error ∧
    error ≠ .helpRequested ∧ error ≠ .versionRequested

theorem run_of_ok {start : Start} {words : List Word} {arguments : Arguments}
    (read : Arguments.ofWords start.environment words = .ok arguments) :
    run start words = runWithArguments start arguments := by
  rw [run, read]

/-- Reading the arguments alone changes nothing. -/
theorem run_of_error {start : Start} {words : List Word} {error : UsageError}
    (read : Arguments.ofWords start.environment words = .error error) :
    (run start words).disk = start.disk ∧
      (run start words).status =
        if error = .helpRequested ∨ error = .versionRequested then statusOk
        else statusWarnings := by
  rw [run, read]
  cases error <;> exact ⟨rfl, rfl⟩

/-- With a published result whose report was written, the status is two if and only if there are
warnings and they count. -/
theorem reportStatus_merge (arguments : Arguments) (loaded : Settings) (result : AnalysisResult) :
    reportStatus (arguments.merge loaded) result =
      if (arguments.failOnWarnings = true ∨ loaded.report.failOnWarnings = true) ∧
          result.warnings ≠ [] then statusWarnings
      else statusOk := by
  simp [reportStatus, Arguments.merge, AnalysisResult.isClean]

/-- How the status of a run with arguments that can be read comes about. -/
theorem status_of_arguments (start : Start) (arguments : Arguments) :
    ((runWithArguments start arguments).status = statusWarnings ↔
      ∃ loaded manifest result disk, Reports start arguments loaded manifest result disk ∧
        (arguments.failOnWarnings = true ∨ loaded.report.failOnWarnings = true) ∧
        result.warnings ≠ []) ∧
    ((runWithArguments start arguments).status = statusFailed ↔ Fails start arguments) ∧
    ((runWithArguments start arguments).status = statusOk ∨
      (runWithArguments start arguments).status = statusFailed ∨
      (runWithArguments start arguments).status = statusWarnings) := by
  refine ⟨⟨fun two => ?_, ?_⟩, ⟨fun one => ?_, fun fails => (run_of_fails fails).1⟩, ?_⟩
  · cases course start arguments with
    | fails fails => rw [(run_of_fails fails).1] at two; cases two
    | initializes disk initializes => rw [(run_of_initializes initializes).1] at two; cases two
    | lists loaded manifest lists => rw [(run_of_lists lists).1] at two; cases two
    | reports loaded manifest result disk reports =>
      rw [(run_of_reports reports).1, reportStatus_merge] at two
      split at two
      · exact ⟨loaded, manifest, result, disk, reports, ‹_›⟩
      · cases two
  · rintro ⟨loaded, manifest, result, disk, reports, counted⟩
    rw [(run_of_reports reports).1, reportStatus_merge, if_pos counted]
  · cases course start arguments with
    | fails fails => exact fails
    | initializes disk initializes => rw [(run_of_initializes initializes).1] at one; cases one
    | lists loaded manifest lists => rw [(run_of_lists lists).1] at one; cases one
    | reports loaded manifest result disk reports =>
      rw [(run_of_reports reports).1, reportStatus_merge] at one
      split at one <;> cases one
  · cases course start arguments with
    | fails fails => exact .inr (.inl (run_of_fails fails).1)
    | initializes disk initializes => exact .inl (run_of_initializes initializes).1
    | lists loaded manifest lists => exact .inl (run_of_lists lists).1
    | reports loaded manifest result disk reports =>
      rw [(run_of_reports reports).1, reportStatus_merge]
      split
      · exact .inr (.inr rfl)
      · exact .inl rfl

/-- The status of every run. It is two when a result with warnings was published and reported and
warnings count as a failure by flag or settings, and also when the arguments cannot be read. It is
one for every failure after that, and otherwise zero. -/
theorem status_of_run (start : Start) (words : List Word) :
    ((run start words).status = statusWarnings ↔
      IsUnusable start words ∨
        ∃ arguments loaded manifest result disk,
          Arguments.ofWords start.environment words = .ok arguments ∧
          Reports start arguments loaded manifest result disk ∧
          (arguments.failOnWarnings = true ∨ loaded.report.failOnWarnings = true) ∧
          result.warnings ≠ []) ∧
    ((run start words).status = statusFailed ↔
      ∃ arguments, Arguments.ofWords start.environment words = .ok arguments ∧
        Fails start arguments) ∧
    ((run start words).status = statusOk ∨ (run start words).status = statusFailed ∨
      (run start words).status = statusWarnings) := by
  cases read : Arguments.ofWords start.environment words with
  | error error =>
    have unusable : IsUnusable start words ↔
        ¬ (error = .helpRequested ∨ error = .versionRequested) := by
      simp [IsUnusable, read, not_or]
    rw [(run_of_error read).2, unusable]
    by_cases asked : error = .helpRequested ∨ error = .versionRequested
    · simp [asked, statusOk, statusFailed, statusWarnings]
    · simp [asked, statusFailed, statusWarnings]
  | ok arguments =>
    have usable : ¬ IsUnusable start words := by
      rintro ⟨error, fails, -⟩
      rw [read] at fails
      cases fails
    obtain ⟨two, one, status⟩ := status_of_arguments start arguments
    rw [run_of_ok read]
    simpa only [usable, false_or, Except.ok.injEq, exists_eq_left', exists_and_left, true_and, two,
      one] using status

end ScanMerge.CommandLine
