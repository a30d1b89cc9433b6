import ScanMerge.Import.Registry
import ScanMerge.Proofs.CollectedSets
import ScanMerge.Proofs.Outcomes
import Mathlib.Logic.ExistsUnique

/-!
What becomes of the results of a log. Each of them is suppressed, or its rule has no key, or it is
imported; a walk over the results of all runs accounts for every one of them once, by a finding or
by an id in the one warning about rules without keys.
-/

set_option autoImplicit false

namespace ScanMerge

theorem mem_distinctTexts {texts : List String} {text : String} :
    text ∈ distinctTexts texts ↔ text ∈ texts := by
  -- For the induction the texts are put into any list.
  have further (present : List String) :
      text ∈ texts.foldl (fun present text => insertText text present) present ↔
        text ∈ present ∨ text ∈ texts := by
    induction texts generalizing present with
    | nil => simp
    | cons first rest ih =>
      rw [List.foldl_cons, ih, mem_insertText, List.mem_cons, or_comm (a := text = first), or_assoc]
  rw [distinctTexts, further]
  simp

theorem ascending_distinctTexts (texts : List String) :
    (distinctTexts texts).Pairwise (· < ·) := by
  have further (present : List String) (ascending : present.Pairwise (· < ·)) :
      (texts.foldl (fun present text => insertText text present) present).Pairwise (· < ·) := by
    induction texts generalizing present with
    | nil => exact ascending
    | cons first rest ih => exact ih _ (ascending_insertText first ascending)
  exact further [] .nil

namespace Sarif

/-! ### Rules -/

/-- The id of one of the analyzer's own rules: an S with decimal digits behind it. -/
def IsOwnRule (ruleId : String) : Prop :=
  ∃ digits : List Char, digits ≠ [] ∧ (∀ c ∈ digits, '0' ≤ c ∧ c ≤ '9') ∧
    ruleId.toList = 'S' :: digits

/-- The key of a rule. What is configured counts for the rules of other analyzers only. -/
inductive HasKey (settings : RuleSettings) (ruleId : String) : String → Prop where
  | own (own : IsOwnRule ruleId) : HasKey settings ruleId (settings.repository ++ ":" ++ ruleId)
  | configured {key : String} (foreign : ¬ IsOwnRule ruleId)
      (found : settings.ruleMap.get? ruleId = some key) : HasKey settings ruleId key

theorem isDigit_iff {c : Char} : c.isDigit = true ↔ '0' ≤ c ∧ c ≤ '9' := by
  rw [Char.isDigit, Bool.and_eq_true, decide_eq_true_eq, decide_eq_true_eq]
  rfl

theorem isOwnRule_iff {ruleId : String} : isOwnRule ruleId = true ↔ IsOwnRule ruleId := by
  rw [isOwnRule]
  split
  · next digits shape =>
    simp only [Bool.and_eq_true, decide_eq_true_eq, List.all_eq_true, isDigit_iff]
    constructor
    · rintro ⟨some, all⟩
      exact ⟨digits, some, all, shape⟩
    · rintro ⟨others, some, all, same⟩
      rw [shape] at same
      cases same
      exact ⟨some, all⟩
  · next other =>
    constructor
    · nofun
    · rintro ⟨digits, -, -, shape⟩
      exact absurd shape (other digits)

section Keys

variable {settings : RuleSettings} {ruleId key : String}

theorem ruleKey?_eq_some_iff :
    ruleKey? settings ruleId = some key ↔ HasKey settings ruleId key := by
  rw [ruleKey?]
  split
  · next own =>
    rw [isOwnRule_iff] at own
    constructor
    · rintro ⟨⟩
      exact .own own
    · rintro (_ | ⟨foreign, -⟩)
      · rfl
      · exact absurd own foreign
  · next foreign =>
    rw [isOwnRule_iff] at foreign
    constructor
    · exact .configured foreign
    · rintro (own | ⟨-, found⟩)
      · exact absurd own foreign
      · exact found

theorem ruleKey?_eq_none_iff :
    ruleKey? settings ruleId = none ↔ ∀ key, ¬ HasKey settings ruleId key := by
  simp only [← ruleKey?_eq_some_iff, Option.eq_none_iff_forall_ne_some, ne_eq]

end Keys

/-! ### Fates -/

/-- What becomes of a result. -/
inductive Fate where
  | suppressed
  | unmapped
  | imported (key : String)

/-- The result is suppressed, in either layout. -/
def Result.Suppressed (result : Result) : Prop :=
  result.suppressionStates ≠ [] ∨ result.suppressionCount ≠ 0

/-- The fate of a result, which is suppressed whether its rule has a key or not. -/
inductive Result.Meets (settings : RuleSettings) (result : Result) : Fate → Prop where
  | suppressed (suppressed : result.Suppressed) : result.Meets settings .suppressed
  | unmapped (active : ¬ result.Suppressed) (noKey : ∀ key, ¬ HasKey settings result.ruleId key) :
      result.Meets settings .unmapped
  | imported {key : String} (active : ¬ result.Suppressed)
      (hasKey : HasKey settings result.ruleId key) : result.Meets settings (.imported key)

theorem Result.isSuppressed_iff {result : Result} :
    result.isSuppressed = true ↔ result.Suppressed := by
  simp [isSuppressed, Suppressed]

section Fates

variable {settings : RuleSettings} {result : Result}

theorem HasKey.unique {ruleId key other : String} (hasKey : HasKey settings ruleId key)
    (hasOther : HasKey settings ruleId other) : other = key := by
  rw [← ruleKey?_eq_some_iff] at hasKey hasOther
  exact Option.some.inj (hasOther.symm.trans hasKey)

/-- A result has one fate. -/
theorem Result.existsUnique_fate (settings : RuleSettings) (result : Result) :
    ∃! fate, result.Meets settings fate := by
  by_cases suppressed : result.Suppressed
  · refine ⟨.suppressed, .suppressed suppressed, ?_⟩
    rintro _ (_ | ⟨active, -⟩ | ⟨active, -⟩)
    · rfl
    · exact absurd suppressed active
    · exact absurd suppressed active
  · cases found : ruleKey? settings result.ruleId with
    | none =>
      have noKey := ruleKey?_eq_none_iff.mp found
      refine ⟨.unmapped, .unmapped suppressed noKey, ?_⟩
      rintro _ (is | _ | ⟨-, hasKey⟩)
      · exact absurd is suppressed
      · rfl
      · exact absurd hasKey (noKey _)
    | some key =>
      have hasKey := ruleKey?_eq_some_iff.mp found
      refine ⟨.imported key, .imported suppressed hasKey, ?_⟩
      rintro _ (is | ⟨-, noKey⟩ | ⟨-, hasOther⟩)
      · exact absurd is suppressed
      · exact absurd hasKey (noKey key)
      · rw [hasKey.unique hasOther]

theorem Result.Meets.unique {fate other : Fate} (meets : result.Meets settings fate)
    (meetsOther : result.Meets settings other) : fate = other :=
  (result.existsUnique_fate settings).unique meets meetsOther

end Fates

/-! ### Findings of results -/

/-- The severity of a level. A result without a level is a warning. -/
inductive Grades : Option String → Severity → Prop where
  | error : Grades (some "error") .high
  | warning : Grades (some "warning") .medium
  | absent : Grades none .medium
  | other {level : String} (notError : level ≠ "error") (notWarning : level ≠ "warning") :
      Grades (some level) .low

/-- The place of a result is that of its first location; layout 2.1.0 goes before 1.0.0. -/
def Result.StandsAt (result : Result) (place : Place) : Prop :=
  ∃ location others, result.locations = location :: others ∧
    (location.physicalLocation = some place ∨
      location.physicalLocation = none ∧ location.resultFile = some place)

/-- The place is in a file with the URI; layout 2.1.0 goes before 1.0.0. -/
def Place.Names (place : Place) (uri : String) : Prop :=
  place.artifactUri = some uri ∨ place.artifactUri = none ∧ place.uri = some uri

/-- A region has a first line, which counts from one. It ends there unless it ends on a later one,
and a column that is not given is zero. -/
structure Region.Spans (region : Region) (range : TextRange) : Prop where
  startLine : region.startLine = some range.startLine
  notZero : range.startLine ≠ 0
  endLine : range.endLine = max range.startLine (region.endLine.getD range.startLine)
  startColumn : range.startColumn = region.startColumn.getD 0
  endColumn : range.endColumn = region.endColumn.getD 0

/-- What a result becomes under a key. Without a file it is an issue of the module as a whole. -/
structure Result.Becomes (result : Result) (moduleKey key : String) (finding : Finding) :
    Prop where
  kind : finding.kind = .issue
  key : finding.key = key
  moduleKey : finding.moduleKey = moduleKey
  projectType : finding.projectType = .unknown
  message : finding.message = result.message.getD ""
  severity : ∃ severity, finding.severity = some severity ∧ Grades result.level severity
  file : ∀ path, finding.sourceFile = some path ↔
    ∃ place uri, result.StandsAt place ∧ place.Names uri ∧ path = Path.ofUri uri
  lines : ∀ range, finding.location = some range ↔
    ∃ place uri region, result.StandsAt place ∧ place.Names uri ∧ place.region = some region ∧
      region.Spans range

theorem grades_iff {level : Option String} {severity : Severity} :
    Grades level severity ↔ severity = severityOf level := by
  constructor
  · rintro (_ | _ | _ | ⟨notError, notWarning⟩)
    · rfl
    · rfl
    · rfl
    · simp [severityOf]
  · rintro rfl
    cases level with
    | none => exact .absent
    | some level =>
      by_cases isError : level = "error"
      · subst isError
        exact .error
      by_cases isWarning : level = "warning"
      · subst isWarning
        exact .warning
      have low : severityOf (some level) = .low := by simp [severityOf]
      rw [low]
      exact .other isError isWarning

theorem Place.names_iff {place : Place} {uri : String} :
    place.Names uri ↔ (place.artifactUri <|> place.uri) = some uri := by
  rw [Names]
  cases place.artifactUri <;> simp

theorem Result.standsAt_iff {result : Result} {place : Place} :
    result.StandsAt place ↔ result.place? = some place := by
  rw [StandsAt, place?]
  cases result.locations with
  | nil => simp
  | cons location others =>
    cases own : location.physicalLocation <;> simp [own]

theorem Region.spans_iff {region : Region} {range : TextRange} :
    region.Spans range ↔ region.location? = some range := by
  have later (first last : UInt32) : (if last < first then first else last) = max first last := by
    have greater : max first last = if first ≤ last then last else first := rfl
    rw [greater]
    grind
  constructor
  · rintro ⟨first, notZero, last, firstColumn, lastColumn⟩
    rw [location?, first]
    simp only [notZero, if_false, later, ← last, ← firstColumn, ← lastColumn]
  · intro given
    rw [location?] at given
    split at given
    · cases given
    · next startLine first =>
      split at given
      · cases given
      · next notZero =>
        cases given
        exact ⟨first, notZero, later _ _, rfl, rfl⟩

theorem Result.finding_eq (result : Result) (moduleKey key : String) :
    result.finding moduleKey key =
      { kind := .issue
        sourceFile := result.place?.bind Place.file?
        key, moduleKey
        location := (result.place?.bind Place.file?).bind fun _ =>
          (result.place?.bind Place.region).bind Region.location?
        message := result.message.getD ""
        severity := some (severityOf result.level)
        projectType := .unknown } := by
  rw [Result.finding]
  cases result.place?.bind Place.file? <;> rfl

theorem Result.becomes_finding (result : Result) (moduleKey key : String) :
    result.Becomes moduleKey key (result.finding moduleKey key) := by
  rw [finding_eq]
  refine ⟨rfl, rfl, rfl, rfl, rfl, ⟨_, rfl, grades_iff.mpr rfl⟩, ?_, ?_⟩
  · intro path
    simp only [standsAt_iff, Place.names_iff]
    cases result.place? <;> simp [Place.file?, eq_comm]
  · intro range
    simp only [standsAt_iff, Place.names_iff, Region.spans_iff]
    cases result.place? with
    | none => simp
    | some place =>
      simp only [Option.some.injEq, exists_and_left, exists_eq_left', Option.bind_some, Place.file?]
      cases place.artifactUri <|> place.uri <;> simp [Option.bind_eq_some_iff]

theorem Result.Becomes.unique {result : Result} {moduleKey key : String} {finding other : Finding}
    (becomes : result.Becomes moduleKey key finding)
    (becomesOther : result.Becomes moduleKey key other) : finding = other := by
  have file : finding.sourceFile = other.sourceFile := Option.ext fun path =>
    (becomes.file path).trans (becomesOther.file path).symm
  have lines : finding.location = other.location := Option.ext fun range =>
    (becomes.lines range).trans (becomesOther.lines range).symm
  obtain ⟨severity, has, grades⟩ := becomes.severity
  obtain ⟨otherSeverity, hasOther, otherGrades⟩ := becomesOther.severity
  have severities : finding.severity = other.severity := by
    rw [has, hasOther, grades_iff.mp grades, grades_iff.mp otherGrades]
  cases finding
  cases other
  simp only [Finding.mk.injEq]
  exact ⟨becomes.kind.trans becomesOther.kind.symm, file,
    becomes.key.trans becomesOther.key.symm, lines,
    becomes.message.trans becomesOther.message.symm, severities,
    becomes.moduleKey.trans becomesOther.moduleKey.symm,
    becomes.projectType.trans becomesOther.projectType.symm⟩

/-! ### The walk over results -/

/-- Each result is accounted for: by a finding when it is imported, by its rule's id when that rule
has no key, and by nothing when it is suppressed. -/
inductive Accounts (settings : RuleSettings) (moduleKey : String) :
    List Result → List Finding → List String → Prop where
  | done : Accounts settings moduleKey [] [] []
  | suppressed {result : Result} {rest : List Result} {findings : List Finding}
      {unmapped : List String} (fate : result.Meets settings .suppressed)
      (others : Accounts settings moduleKey rest findings unmapped) :
      Accounts settings moduleKey (result :: rest) findings unmapped
  | unmapped {result : Result} {rest : List Result} {findings : List Finding}
      {unmapped : List String} (fate : result.Meets settings .unmapped)
      (others : Accounts settings moduleKey rest findings unmapped) :
      Accounts settings moduleKey (result :: rest) findings (result.ruleId :: unmapped)
  | imported {result : Result} {key : String} {finding : Finding} {rest : List Result}
      {findings : List Finding} {unmapped : List String}
      (fate : result.Meets settings (.imported key))
      (becomes : result.Becomes moduleKey key finding)
      (others : Accounts settings moduleKey rest findings unmapped) :
      Accounts settings moduleKey (result :: rest) (finding :: findings) unmapped

/-- The results that are not suppressed. -/
def active (results : List Result) : List Result :=
  results.filter fun result => !result.isSuppressed

section Walk

variable {settings : RuleSettings} {moduleKey : String} {results : List Result}
  {findings otherFindings : List Finding} {unmapped otherUnmapped : List String}

/-- What a log contributes is accounted for. -/
theorem accounts_active (settings : RuleSettings) (moduleKey : String) (results : List Result) :
    Accounts settings moduleKey results (Sarif.findings settings moduleKey (active results))
      (unmappedIds settings (active results)) := by
  induction results with
  | nil => exact .done
  | cons result rest ih =>
    by_cases suppressed : result.isSuppressed
    · have fate : result.Meets settings .suppressed :=
        .suppressed (Result.isSuppressed_iff.mp suppressed)
      simpa [active, suppressed] using Accounts.suppressed fate ih
    · have isActive : ¬ result.Suppressed := fun is =>
        suppressed (Result.isSuppressed_iff.mpr is)
      cases found : ruleKey? settings result.ruleId with
      | none =>
        have fate : result.Meets settings .unmapped :=
          .unmapped isActive (ruleKey?_eq_none_iff.mp found)
        simpa [active, suppressed, Sarif.findings, unmappedIds, found] using
          Accounts.unmapped fate ih
      | some key =>
        have fate : result.Meets settings (.imported key) :=
          .imported isActive (ruleKey?_eq_some_iff.mp found)
        simpa [active, suppressed, Sarif.findings, unmappedIds, found] using
          Accounts.imported fate (result.becomes_finding moduleKey key) ih

/-- Results are accounted for in one way. -/
theorem Accounts.unique (accounts : Accounts settings moduleKey results findings unmapped)
    (others : Accounts settings moduleKey results otherFindings otherUnmapped) :
    findings = otherFindings ∧ unmapped = otherUnmapped := by
  induction accounts generalizing otherFindings otherUnmapped with
  | done =>
    cases others
    exact ⟨rfl, rfl⟩
  | suppressed fate _ ih =>
    cases others with
    | suppressed _ others => exact ih others
    | unmapped other _ => cases fate.unique other
    | imported other _ _ => cases fate.unique other
  | unmapped fate _ ih =>
    cases others with
    | suppressed other _ => cases fate.unique other
    | unmapped _ others =>
      obtain ⟨rfl, rfl⟩ := ih others
      exact ⟨rfl, rfl⟩
    | imported other _ _ => cases fate.unique other
  | imported fate becomes _ ih =>
    cases others with
    | suppressed other _ => cases fate.unique other
    | unmapped other _ => cases fate.unique other
    | imported other becomesOther others =>
      cases fate.unique other
      cases becomes.unique becomesOther
      obtain ⟨rfl, rfl⟩ := ih others
      exact ⟨rfl, rfl⟩

end Walk

/-! ### Logs -/

/-- One warning names the ids of rules without keys, ascending, and says how many results have
them. There is none when there are no such results. -/
inductive Warns (artifact : Artifact) : List String → List Warning → Prop where
  | nothing : Warns artifact [] []
  | once {unmapped ids : List String} (some : unmapped ≠ []) (ascending : ids.Pairwise (· < ·))
      (same : ∀ id, id ∈ ids ↔ id ∈ unmapped) :
      Warns artifact unmapped
        [{ kind := .unmappedRules
           moduleKey := artifact.moduleKey
           path := artifact.path
           message := s!"Dropped {unmapped.length} results with unmapped rule ids: " ++
             String.intercalate ", " ids }]

theorem warns_iff {artifact : Artifact} {unmapped : List String} {warnings : List Warning} :
    Warns artifact unmapped warnings ↔
      warnings = if unmapped = [] then [] else [unmappedWarning artifact unmapped] := by
  constructor
  · rintro (_ | ⟨some, ascending, same⟩)
    · rfl
    · have ids := eq_of_ascending (fun _ _ => String.lt_asymm) ascending
        (ascending_distinctTexts unmapped) fun id => (same id).trans mem_distinctTexts.symm
      rw [if_neg some, unmappedWarning, ids]
  · rintro rfl
    split
    · next none =>
      rw [none]
      exact .nothing
    · next some => exact .once some (ascending_distinctTexts unmapped) fun _ => mem_distinctTexts

/-- The input is a log in a version that is understood, and its runs have the results. -/
def IsLog (input : List UInt8) (runs : List (List Result)) : Prop :=
  ∃ document version, Json.parse input = .ok document ∧
    document.get? "version" = some (.string version) ∧ version ∈ supportedVersions ∧
      logShape document = .ok runs

theorem read_eq_ok_iff {input : List UInt8} {results : List Result} :
    read input = .ok results ↔ ∃ runs, IsLog input runs ∧ results = runs.flatten := by
  constructor
  · intro given
    rw [read] at given
    split at given
    · cases given
    · next document parses =>
      split at given
      · cases given
      · next version named =>
        split at given
        · next supported =>
          split at given
          · cases given
          · next runs shaped =>
            cases given
            obtain ⟨value, found, isText⟩ := Option.bind_eq_some_iff.mp named
            have isVersion : value = .string version := by
              cases value <;> cases isText
              rfl
            rw [isVersion] at found
            exact ⟨runs, ⟨document, version, parses, found, List.contains_iff_mem.mp supported,
              shaped⟩, rfl⟩
        · cases given
  · rintro ⟨runs, ⟨document, version, parses, found, supported, shaped⟩, rfl⟩
    have named : (document.get? "version").bind Json.string? = some version := by
      rw [found]
      rfl
    rw [read, parses]
    simp only [named, List.contains_iff_mem.mpr supported, if_true, shaped]

/-- A log is imported by accounting for the results of its runs, one run after the other. Each of
them is suppressed, unmapped or imported, and only one of these; the findings are those of the
imported results in their order, and one warning counts the unmapped ones. -/
theorem importBytes_accounts (settings : RuleSettings) (artifact : Artifact) (input : List UInt8)
    (contribution : Contribution) :
    (∀ result : Result, ∃! fate, result.Meets settings fate) ∧
      ((Importer.sarif settings).importBytes artifact input = .ok contribution ↔
        ∃ runs unmapped, IsLog input runs ∧
          Accounts settings artifact.moduleKey runs.flatten contribution.findings unmapped ∧
          contribution.generatedFiles = [] ∧ Warns artifact unmapped contribution.warnings) := by
  refine ⟨Result.existsUnique_fate settings, ?_⟩
  constructor
  · intro imported
    obtain ⟨results, given, rfl⟩ := exists_of_map_eq_ok (eq_ok_of_mapError_eq_ok imported)
    obtain ⟨runs, isLog, rfl⟩ := read_eq_ok_iff.mp given
    exact ⟨runs, unmappedIds settings (active runs.flatten), isLog, accounts_active _ _ _, rfl,
      warns_iff.mpr rfl⟩
  · rintro ⟨runs, unmapped, isLog, accounts, noFiles, warns⟩
    have given : read input = .ok runs.flatten := read_eq_ok_iff.mpr ⟨runs, isLog, rfl⟩
    obtain ⟨sameFindings, rfl⟩ := accounts.unique (accounts_active _ _ _)
    have same : contribution = Sarif.contribution settings artifact runs.flatten := by
      cases contribution
      cases sameFindings
      cases noFiles
      cases warns_iff.mp warns
      rfl
    simp only [Importer.importBytes, importBytes, given, same]
    rfl

end Sarif

end ScanMerge
