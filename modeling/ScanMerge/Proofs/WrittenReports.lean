import ScanMerge.Proofs.ImportedFindings
import ScanMerge.Proofs.WireEncoding

/-!
Importing a binary report that was written: a header and records of files, each a message after its
length. Every record is read back, with defaults in place of the fields that were left out; its
issues, its metrics and its mark as generated are imported in order.
-/

set_option autoImplicit false

namespace ScanMerge.BinaryReport

open Wire

/-! ### Writing -/

def Header.encode (header : Header) : List UInt8 :=
  Scalar.text.field 1 header.magic ++ Scalar.word.field 2 header.version ++
    Scalar.text.field 3 header.producer

def Range.encode (range : Range) : List UInt8 :=
  Scalar.word.field 1 range.startLine ++ Scalar.word.field 2 range.startColumn ++
    Scalar.word.field 3 range.endLine ++ Scalar.word.field 4 range.endColumn

def Issue.encode (issue : Issue) : List UInt8 :=
  Scalar.text.field 1 issue.ruleId ++ Scalar.text.field 2 issue.message ++
    optionalField 3 Range.encode issue.range ++ Scalar.text.field 4 issue.severity

def Metrics.encode (metrics : Metrics) : List UInt8 :=
  Scalar.signed.field 1 metrics.classes ++ Scalar.signed.field 2 metrics.statements ++
    Scalar.signed.field 3 metrics.functions ++ Scalar.signed.field 4 metrics.complexity ++
    Scalar.signed.field 5 metrics.cognitiveComplexity ++ Scalar.signed.field 6 metrics.ncloc ++
    Scalar.signed.field 7 metrics.commentLines

def File.encode (file : File) : List UInt8 :=
  Scalar.text.field 1 file.path ++ file.issues.flatMap (fun issue => messageField 2 issue.encode) ++
    optionalField 3 Metrics.encode file.metrics ++ Scalar.flag.field 4 file.isGenerated

/-- The records of files, one after the other. -/
def encodeFiles (files : List File) : List UInt8 :=
  files.flatMap fun file => delimited file.encode

def encode (producer : String) (files : List File) : List UInt8 :=
  delimited (Header.encode { magic, version := supportedVersion, producer }) ++ encodeFiles files

/-! ### Reading the fields back -/

section Scalars

variable {α : Type} (field : FieldReader α) (tag : Nat) {message : α} {name : String}

theorem writes_word (isTag : IsTag tag) (put : UInt32 → α) (same : put 0 = message)
    (reads : ∀ input, field message ⟨tag, .varint⟩ input = readWord put name ⟨tag, .varint⟩ input)
    (value : UInt32) : Writes field (Scalar.word.field tag value) message (put value) := by
  refine Scalar.word.writes isTag put same fun _ after => ?_
  have bound : value.toNat < UInt64.size := Nat.lt_trans value.toNat_lt (by decide)
  have given := ((gives_readNumber bound after).inField name).store
    fun number => put (UInt32.ofNat number)
  rw [UInt32.ofNat_toNat] at given
  change Gives (field message ⟨tag, .varint⟩ _) _ _
  rw [reads]
  exact given

/-- The low bits of a number extended to 64 bits are the number. -/
theorem toInt32_extended (value : Int32) :
    (UInt32.ofNat value.toInt64.toUInt64.toNat).toInt32 = value := by
  have low : value.toInt64.toInt32.toBitVec = value.toBitVec := by rw [Int32.toInt32_toInt64]
  rw [Int64.toBitVec_toInt32, BitVec.signExtend_eq_setWidth_of_le _ (by decide)] at low
  exact Int32.toBitVec_inj.mp low

theorem writes_signed (isTag : IsTag tag) (put : Int32 → α) (same : put 0 = message)
    (reads : ∀ input,
      field message ⟨tag, .varint⟩ input = readSigned put name ⟨tag, .varint⟩ input)
    (value : Int32) : Writes field (Scalar.signed.field tag value) message (put value) := by
  refine Scalar.signed.writes isTag put same fun _ after => ?_
  have given := ((gives_readNumber value.toInt64.toUInt64.toNat_lt after).inField name).store
    fun number => put (UInt32.ofNat number).toInt32
  rw [toInt32_extended] at given
  change Gives (field message ⟨tag, .varint⟩ _) _ _
  rw [reads]
  exact given

theorem writes_text (isTag : IsTag tag) (put : String → α) (same : put "" = message)
    (reads : ∀ input,
      field message ⟨tag, .lengthDelimited⟩ input = readText put name ⟨tag, .lengthDelimited⟩ input)
    (value : String) : Writes field (Scalar.text.field tag value) message (put value) := by
  refine Scalar.text.writes isTag put same fun fits after => ?_
  have fitsText : Fits (Text.Utf8.encodeString value) :=
    fits.of_sublist (List.sublist_append_right _ _)
  change Gives (field message ⟨tag, .lengthDelimited⟩ _) _ _
  rw [reads]
  exact ((gives_readString fitsText after).inField name).store put

end Scalars

/-! ### Reading messages back -/

theorem Header.writes (header : Header) : Writes Header.field header.encode {} header := by
  obtain ⟨magic, version, producer⟩ := header
  have first := writes_text Header.field 1 (by decide) (Header.mk · 0 "") rfl (fun _ => rfl) magic
  have second := writes_word Header.field 2 (by decide) (Header.mk magic · "") rfl (fun _ => rfl)
    version
  have third := writes_text Header.field 3 (by decide) (Header.mk magic version ·) rfl
    (fun _ => rfl) producer
  exact (first.trans second).trans third

theorem Range.writes (range : Range) : Writes Range.field range.encode {} range := by
  obtain ⟨startLine, startColumn, endLine, endColumn⟩ := range
  have first := writes_word Range.field 1 (by decide) (Range.mk · 0 0 0) rfl (fun _ => rfl)
    startLine
  have second := writes_word Range.field 2 (by decide) (Range.mk startLine · 0 0) rfl
    (fun _ => rfl) startColumn
  have third := writes_word Range.field 3 (by decide) (Range.mk startLine startColumn · 0) rfl
    (fun _ => rfl) endLine
  have fourth := writes_word Range.field 4 (by decide) (Range.mk startLine startColumn endLine ·)
    rfl (fun _ => rfl) endColumn
  exact ((first.trans second).trans third).trans fourth

theorem Issue.writes (issue : Issue) : Writes Issue.field issue.encode {} issue := by
  obtain ⟨ruleId, message, range, severity⟩ := issue
  have first := writes_text Issue.field 1 (by decide) (Issue.mk · "" none "") rfl (fun _ => rfl)
    ruleId
  have second := writes_text Issue.field 2 (by decide) (Issue.mk ruleId · none "") rfl
    (fun _ => rfl) message
  have third := writes_optionalField Issue.field 3 (by decide) Range.writes
    (Issue.mk ruleId message · "") (fun _ _ reads =>
      (reads.inField "IssueRecord.text_range").store fun range =>
        Issue.mk ruleId message (some range) "") range
  have fourth := writes_text Issue.field 4 (by decide) (Issue.mk ruleId message range ·) rfl
    (fun _ => rfl) severity
  exact ((first.trans second).trans third).trans fourth

theorem Metrics.writes (metrics : Metrics) : Writes Metrics.field metrics.encode {} metrics := by
  obtain ⟨classes, statements, functions, complexity, cognitive, ncloc, comments⟩ := metrics
  have first := writes_signed Metrics.field 1 (by decide) (Metrics.mk · 0 0 0 0 0 0) rfl
    (fun _ => rfl) classes
  have second := writes_signed Metrics.field 2 (by decide) (Metrics.mk classes · 0 0 0 0 0) rfl
    (fun _ => rfl) statements
  have third := writes_signed Metrics.field 3 (by decide) (Metrics.mk classes statements · 0 0 0 0)
    rfl (fun _ => rfl) functions
  have fourth := writes_signed Metrics.field 4 (by decide)
    (Metrics.mk classes statements functions · 0 0 0) rfl (fun _ => rfl) complexity
  have fifth := writes_signed Metrics.field 5 (by decide)
    (Metrics.mk classes statements functions complexity · 0 0) rfl (fun _ => rfl) cognitive
  have sixth := writes_signed Metrics.field 6 (by decide)
    (Metrics.mk classes statements functions complexity cognitive · 0) rfl (fun _ => rfl) ncloc
  have seventh := writes_signed Metrics.field 7 (by decide)
    (Metrics.mk classes statements functions complexity cognitive ncloc ·) rfl (fun _ => rfl)
    comments
  exact (((((first.trans second).trans third).trans fourth).trans fifth).trans sixth).trans seventh

/-- The record with one more issue. -/
def File.withIssue (file : File) (issue : Issue) : File :=
  { file with issues := file.issues ++ [issue] }

theorem File.foldl_withIssue (issues : List Issue) (file : File) :
    issues.foldl File.withIssue file = { file with issues := file.issues ++ issues } := by
  induction issues generalizing file with
  | nil => rw [List.append_nil]; rfl
  | cons issue rest ih =>
    rw [List.foldl_cons, ih, withIssue, List.append_assoc]
    rfl

theorem File.writes (file : File) : Writes File.field file.encode {} file := by
  -- After each field the record has the values written so far, and the others are still defaults.
  obtain ⟨path, issues, metrics, isGenerated⟩ := file
  have first := writes_text File.field 1 (by decide) (File.mk · [] none false) rfl (fun _ => rfl)
    path
  have second : Writes File.field (issues.flatMap fun issue => messageField 2 issue.encode)
      (File.mk path [] none false) (File.mk path issues none false) := by
    have each (file : File) (issue : Issue) :
        Writes File.field (messageField 2 issue.encode) file (file.withIssue issue) :=
      issue.writes.messageField (by decide) fun _ reads =>
        (reads.inField "FileReport.issues").store file.withIssue
    have all := Writes.flatMap each issues (File.mk path [] none false)
    rwa [foldl_withIssue] at all
  have third := writes_optionalField File.field 3 (by decide) Metrics.writes
    (File.mk path issues · false) (fun _ _ reads =>
      (reads.inField "FileReport.metrics").store fun metrics =>
        File.mk path issues (some metrics) false) metrics
  have fourth : Writes File.field (Scalar.flag.field 4 isGenerated)
      (File.mk path issues metrics false) (File.mk path issues metrics isGenerated) := by
    refine Scalar.flag.writes (by decide) (File.mk path issues metrics ·) rfl fun _ after => ?_
    have bound : isGenerated.toNat < UInt64.size := Nat.lt_trans isGenerated.toNat_lt (by decide)
    have given := ((gives_readNumber bound after).inField "FileReport.is_generated").store
      fun number => File.mk path issues metrics (number ≠ 0)
    cases isGenerated <;> exact given
  exact ((first.trans second).trans third).trans fourth

/-- Written records are read back, each as it was. -/
theorem readFiles_encodeFiles {files : List File} (fits : Fits (encodeFiles files)) :
    readFiles (encodeFiles files) = .ok files := by
  induction files with
  | nil => rw [encodeFiles, List.flatMap_nil, readFiles, if_pos rfl]
  | cons file rest ih =>
    have split : encodeFiles (file :: rest) = delimited file.encode ++ encodeFiles rest :=
      List.flatMap_cons
    rw [split] at fits ⊢
    have fitsDelimited := fits.of_sublist (List.sublist_append_left _ _)
    have fitsFile : Fits file.encode := fitsDelimited.of_sublist (List.sublist_append_right _ _)
    have others := ih (fits.of_sublist (List.sublist_append_right _ _))
    obtain ⟨shorter, reads⟩ := (file.writes fitsFile).gives_readMessage fitsFile (encodeFiles rest)
    have notEmpty : delimited file.encode ++ encodeFiles rest ≠ [] :=
      List.ne_nil_of_length_pos (Nat.zero_lt_of_lt shorter)
    rw [readFiles, if_neg notEmpty]
    simp only [reads, others]

/-- A written report is read back, record by record. -/
theorem read_encode {producer : String} {files : List File} (fits : Fits (encode producer files)) :
    read (encode producer files) = .ok files := by
  have fitsDelimited := fits.of_sublist (List.sublist_append_left _ _)
  have fitsHeader := fitsDelimited.of_sublist (List.sublist_append_right _ _)
  have others := readFiles_encodeFiles (fits.of_sublist (List.sublist_append_right _ _))
  obtain ⟨shorter, reads⟩ :=
    (Header.writes _ fitsHeader).gives_readMessage fitsHeader (encodeFiles files)
  have notEmpty : encode producer files ≠ [] :=
    List.ne_nil_of_length_pos (Nat.zero_lt_of_lt shorter)
  rw [read, if_neg notEmpty]
  simp only [encode, reads, ne_eq, not_true, if_false, others]

/-! ### What a report says -/

/-- The place that a range stands for. Line zero is no place, and no range ends before it starts. -/
def Range.reported (range : Range) : Option TextRange :=
  if range.startLine = 0 then none
  else
    some
      { startLine := range.startLine
        startColumn := range.startColumn
        endLine := max range.endLine range.startLine
        endColumn := range.endColumn }

/-- The finding that an issue in a file stands for. -/
def Issue.reported (repository moduleKey path : String) (issue : Issue) : Finding :=
  { kind := .issue
    sourceFile := some (Path.ofString path)
    key := if ':' ∈ issue.ruleId.toList then issue.ruleId else repository ++ ":" ++ issue.ruleId
    location := issue.range.bind Range.reported
    message := issue.message
    severity := some (if issue.severity = "" then .medium else .ofLabel issue.severity)
    moduleKey
    projectType := .unknown }

/-- The finding that a metric of a file stands for. Zero is not reported. -/
def reportedMetric (moduleKey path key : String) (value : Int32) : Option Finding :=
  if value = 0 then none
  else
    some
      { kind := .measure
        sourceFile := some (Path.ofString path)
        key
        location := none
        message := toString value.toInt
        severity := none
        moduleKey
        projectType := .unknown }

/-- The findings that the metrics of a file stand for, in their order. -/
def Metrics.reported (moduleKey path : String) (metrics : Metrics) : List Finding :=
  [("classes", metrics.classes), ("statements", metrics.statements),
    ("functions", metrics.functions), ("complexity", metrics.complexity),
    ("cognitive_complexity", metrics.cognitiveComplexity), ("ncloc", metrics.ncloc),
    ("comment_lines", metrics.commentLines)].filterMap fun entry =>
      reportedMetric moduleKey path entry.1 entry.2

/-- The findings that the record of a file stands for: its issues and then its metrics. -/
def File.reported (repository moduleKey : String) (file : File) : List Finding :=
  file.issues.map (Issue.reported repository moduleKey file.path) ++
    file.metrics.elim [] (Metrics.reported moduleKey file.path)

theorem Range.location?_eq_reported (range : Range) : range.location? = range.reported := by
  have last : (if range.endLine < range.startLine then range.startLine else range.endLine) =
      max range.endLine range.startLine := by
    change _ = if range.endLine ≤ range.startLine then range.startLine else range.endLine
    split
    · next before => rw [if_pos (UInt32.le_of_lt before)]
    · next notBefore =>
      split
      · next notAfter => exact UInt32.le_antisymm notAfter (UInt32.not_lt.mp notBefore)
      · rfl
  rw [location?, reported, last]

theorem Issue.finding_eq_reported (moduleKey repository path : String) :
    Issue.finding moduleKey repository (Path.ofString path) =
      Issue.reported repository moduleKey path := by
  funext issue
  have place : Range.location? = Range.reported := funext Range.location?_eq_reported
  rw [finding, reported, ruleKey, severityOf, place]
  simp only [List.contains_iff_mem]
  rfl

theorem Metrics.findings_eq_reported (moduleKey path : String) :
    Metrics.findings moduleKey (Path.ofString path) = Metrics.reported moduleKey path := by
  funext metrics
  rw [findings, reported, ← List.filterMap_eq_map, List.filterMap_filter, values]
  congr 1
  funext entry
  by_cases zero : entry.2 = 0
  · simp [reportedMetric, zero]
  · simp [reportedMetric, zero, Finding.measure, Json.ofList_integerText]

theorem File.contribution_eq_reported (moduleKey repository : String) (file : File) :
    file.contribution moduleKey repository =
      { findings := file.reported repository moduleKey
        generatedFiles := if file.isGenerated then [Path.ofString file.path] else []
        warnings := [] } := by
  rw [contribution, reported, Issue.finding_eq_reported, Metrics.findings_eq_reported]
  cases file.metrics <;> rfl

/-- A report contributes what its records say, in their order. -/
theorem contribution_eq_reported (moduleKey repository : String) (files : List File) :
    contribution moduleKey repository files =
      { findings := files.flatMap (File.reported repository moduleKey)
        generatedFiles := (files.filter (·.isGenerated)).map (Path.ofString ·.path)
        warnings := [] } := by
  induction files with
  | nil => rfl
  | cons file rest ih =>
    rw [contribution, List.map_cons, List.foldr_cons, ← contribution, ih,
      File.contribution_eq_reported, List.flatMap_cons, List.filter_cons]
    cases file.isGenerated <;> rfl

/-- Importing undoes writing: a report that was written is imported, and gives the findings and the
generated files that its records say. Lengths have 64 bits, so the report has to fit into memory. -/
theorem importBytes_encode (repository moduleKey producer : String) {files : List File}
    (fits : (encode producer files).length < UInt64.size) :
    importBytes repository moduleKey (encode producer files) =
      .ok
        { findings := files.flatMap (File.reported repository moduleKey)
          generatedFiles := (files.filter (·.isGenerated)).map (Path.ofString ·.path)
          warnings := [] } := by
  rw [importBytes, read_encode fits, ← contribution_eq_reported]
  rfl

/-- A file with an issue that ends before it starts, an issue of another repository without a place,
and a negative metric, and then a file of which nothing is said. -/
def twoFiles : List File :=
  [{ path := "a.cs"
     issues :=
      [{ ruleId := "S1", message := "m", range := some { startLine := 300, endLine := 2 },
         severity := "major" },
        { ruleId := "x:S2", range := some { startColumn := 7 } }]
     metrics := some { classes := 1, ncloc := -1 }
     isGenerated := true },
    {}]

theorem importBytes_encode_twoFiles :
    (encode "test" twoFiles).length < UInt64.size ∧
      importBytes "vbnet" "app" (encode "test" twoFiles) =
        .ok
          { findings :=
              [.issue "app" (.ofString "a.cs") "vbnet:S1" (some ⟨300, 0, 300, 0⟩) "m" .high,
                .issue "app" (.ofString "a.cs") "x:S2" none "" .medium,
                .measure "app" (.ofString "a.cs") "classes" "1",
                .measure "app" (.ofString "a.cs") "ncloc" "-1"]
            generatedFiles := [.ofString "a.cs"]
            warnings := [] } := by
  have fits : (encode "test" twoFiles).length < UInt64.size := by decide
  refine ⟨fits, (importBytes_encode "vbnet" "app" "test" fits).trans (congrArg Except.ok ?_)⟩
  decide

end ScanMerge.BinaryReport
