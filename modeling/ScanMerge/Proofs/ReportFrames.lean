import ScanMerge.Proofs.ImportedFindings
import ScanMerge.Proofs.ReportSchemas
import ScanMerge.Proofs.WrittenReports
import Mathlib.Data.List.Forall2

/-!
Binary reports as frames, one for the header and one for the record of each file. Two reports under
one header make up a report again, which says what the first one says and then what the second one
says. A report that is cut off between two frames is imported as far as it goes; one that is cut off
anywhere else is malformed.
-/

set_option autoImplicit false

namespace ScanMerge.BinaryReport

open Wire

/-! ### Reports -/

theorem readFiles_cons {frame : List UInt8} {file : File}
    (isFrame : IsFrame File.field {} frame file) (rest : List UInt8) :
    readFiles (frame ++ rest) = (readFiles rest).map (file :: ·) := by
  obtain ⟨shorter, reads⟩ := File.readBy.standAlone.gives isFrame rest
  rw [readFiles, if_neg (List.append_ne_nil_of_left_ne_nil isFrame.ne_nil rest)]
  simp only [reads]
  cases readFiles rest <;> rfl

/-- What stands behind complete frames is read as if it stood there alone. -/
theorem readFiles_frames {frames : List (List UInt8)} {files : List File}
    (areFrames : List.Forall₂ (IsFrame File.field {}) frames files) (rest : List UInt8) :
    readFiles (frames.flatten ++ rest) = (readFiles rest).map (files ++ ·) := by
  induction areFrames with
  | nil =>
    rw [List.flatten_nil, List.nil_append]
    cases readFiles rest <;> rfl
  | cons isFrame _ ih =>
    rw [List.flatten_cons, List.append_assoc, readFiles_cons isFrame, ih]
    cases readFiles rest <;> rfl

theorem readFiles_flatten {frames : List (List UInt8)} {files : List File}
    (areFrames : List.Forall₂ (IsFrame File.field {}) frames files) :
    readFiles frames.flatten = .ok files := by
  have nothing : readFiles [] = .ok [] := by rw [readFiles, if_pos rfl]
  have reads := readFiles_frames areFrames []
  rw [List.append_nil, nothing] at reads
  exact reads.trans (congrArg Except.ok (List.append_nil files))

/-- Records that are read are frames. -/
theorem exists_frames {input : List UInt8} {files : List File}
    (reads : readFiles input = .ok files) :
    ∃ frames, input = frames.flatten ∧ List.Forall₂ (IsFrame File.field {}) frames files := by
  induction whole : input.length using Nat.strongRecOn generalizing input files with
  | ind size ih =>
    rw [readFiles] at reads
    split at reads
    · next empty =>
      cases reads
      exact ⟨[], empty, .nil⟩
    · split at reads
      · cases reads
      · next file rest shorter readsFile =>
        split at reads
        · cases reads
        · next others readsOthers =>
          cases reads
          obtain ⟨frames, rfl, areFrames⟩ := ih rest.length (whole ▸ shorter) readsOthers rfl
          obtain ⟨frame, rfl, isFrame⟩ :=
            File.readBy.standAlone.exists_frame ⟨shorter, readsFile⟩
          exact ⟨frame :: frames, rfl, .cons isFrame areFrames⟩

/-- Records that are read may stand before any others. -/
theorem readFiles_append {first : List UInt8} {files : List File}
    (reads : readFiles first = .ok files) (second : List UInt8) :
    readFiles (first ++ second) = (readFiles second).map (files ++ ·) := by
  obtain ⟨frames, rfl, areFrames⟩ := exists_frames reads
  exact readFiles_frames areFrames second

/-- What a report reads as, behind the frame of its header. -/
theorem read_append {head : List UInt8} {header : Header}
    (isHead : IsFrame Header.field {} head header) (rest : List UInt8) :
    read (head ++ rest) =
      if header.magic ≠ magic then .error (.unexpectedMagic header.magic)
      else if header.version ≠ supportedVersion then
        .error (.unsupportedVersion (toString header.version.toNat))
      else (readFiles rest).mapError .wire := by
  obtain ⟨shorter, reads⟩ := Header.readBy.standAlone.gives isHead rest
  rw [read, if_neg (List.append_ne_nil_of_left_ne_nil isHead.ne_nil rest)]
  simp only [reads]
  cases readFiles rest <;> rfl

theorem read_append_eq_ok_iff {head rest : List UInt8} {header : Header} {files : List File}
    (isHead : IsFrame Header.field {} head header) :
    read (head ++ rest) = .ok files ↔
      header.magic = magic ∧ header.version = supportedVersion ∧ readFiles rest = .ok files := by
  rw [read_append isHead]
  by_cases hasMagic : header.magic = magic
  · by_cases hasVersion : header.version = supportedVersion
    · simp only [hasMagic, hasVersion, ne_eq, not_true, if_false, true_and]
      cases readFiles rest with
      | error error => simp only [Except.mapError, reduceCtorEq]
      | ok others =>
        exact ⟨fun given => congrArg Except.ok (Except.ok.inj given),
          fun given => congrArg Except.ok (Except.ok.inj given)⟩
    · simp [hasVersion, hasMagic]
  · simp [hasMagic]

/-- Complete frames are imported, and give what their records say. -/
theorem importBytes_frames {repository moduleKey : String} {head : List UInt8} {header : Header}
    (isHead : IsFrame Header.field {} head header) (hasMagic : header.magic = magic)
    (hasVersion : header.version = supportedVersion) {frames : List (List UInt8)}
    {files : List File} (areFrames : List.Forall₂ (IsFrame File.field {}) frames files) :
    importBytes repository moduleKey (head ++ frames.flatten) =
      .ok (contribution moduleKey repository files) := by
  have complete := readFiles_flatten areFrames
  rw [importBytes, (read_append_eq_ok_iff isHead).mpr ⟨hasMagic, hasVersion, complete⟩]
  rfl

/-- Two reports under one header are a report, which says what they say one after the other. And
nothing that is read, a frame, a message inside another one, a single field or an unknown group, is
read differently before other bytes. -/
theorem importBytes_append (repository moduleKey : String) {head : List UInt8} {header : Header}
    (isHead : IsFrame Header.field {} head header) {front back : List UInt8}
    {first second : Contribution}
    (importsFirst : importBytes repository moduleKey (head ++ front) = .ok first)
    (importsSecond : importBytes repository moduleKey (head ++ back) = .ok second) :
    importBytes repository moduleKey (head ++ front ++ back) =
        .ok
          { findings := first.findings ++ second.findings
            generatedFiles := first.generatedFiles ++ second.generatedFiles
            warnings := [] } ∧
      MessagesStandAlone Header.field ∧ MessagesStandAlone File.field ∧
      MessagesStandAlone Issue.field ∧ MessagesStandAlone Range.field ∧
      MessagesStandAlone Metrics.field ∧ ∀ depth key, StandsAlone (skipField depth key) := by
  refine ⟨?_, Header.readBy.standAlone, File.readBy.standAlone, Issue.readBy.standAlone,
    Range.readBy.standAlone, Metrics.readBy.standAlone,
    fun depth key => (accepts_skipField depth key).standsAlone⟩
  obtain ⟨files, readsFirst, rfl⟩ := exists_of_map_eq_ok importsFirst
  obtain ⟨others, readsSecond, rfl⟩ := exists_of_map_eq_ok importsSecond
  obtain ⟨hasMagic, hasVersion, readsFirst⟩ := (read_append_eq_ok_iff isHead).mp readsFirst
  obtain ⟨-, -, readsSecond⟩ := (read_append_eq_ok_iff isHead).mp readsSecond
  have both : readFiles (front ++ back) = .ok (files ++ others) := by
    rw [readFiles_append readsFirst, readsSecond]
    rfl
  have readsBoth := (read_append_eq_ok_iff isHead).mpr ⟨hasMagic, hasVersion, both⟩
  rw [importBytes, List.append_assoc, readsBoth, Except.map]
  simp only [contribution_eq_reported, List.flatMap_append, List.filter_append, List.map_append]

/-- A header without a producer. -/
def plainHead : List UInt8 :=
  delimited (Header.encode { magic, version := supportedVersion })

/-- The record of a file with an issue. An unknown group stands before its path, and the length of
the record has a byte more than it needs. -/
def oddFrame : List UInt8 :=
  [0x8C, 0x00, 0x2B, 0x2C, 0x0A, 0x81, 0x00, 0x61, 0x12, 0x04, 0x0A, 0x02, 0x53, 0x31]

def generatedFrame : List UInt8 :=
  [0x05, 0x0A, 0x01, 0x62, 0x20, 0x01]

theorem isFrame_plainHead :
    IsFrame Header.field {} plainHead { magic, version := supportedVersion } :=
  (Header.writes _).isFrame (show (Header.encode _).length < UInt64.size by decide)

theorem isFrame_oddFrame :
    IsFrame File.field {} oddFrame { path := "a", issues := [{ ruleId := "S1" }] } :=
  ⟨by decide, by decide +kernel⟩

theorem isFrame_generatedFrame :
    IsFrame File.field {} generatedFrame { path := "b", isGenerated := true } :=
  ⟨by decide, by decide +kernel⟩

theorem importBytes_append_oddFrame :
    IsFrame Header.field {} plainHead { magic, version := supportedVersion } ∧
      importBytes "vbnet" "app" (plainHead ++ oddFrame) =
        .ok ⟨[.issue "app" (.ofString "a") "vbnet:S1" none "" .medium], [], []⟩ ∧
      importBytes "vbnet" "app" (plainHead ++ generatedFrame) = .ok ⟨[], [.ofString "b"], []⟩ ∧
      importBytes "vbnet" "app" (plainHead ++ oddFrame ++ generatedFrame) =
        .ok ⟨[.issue "app" (.ofString "a") "vbnet:S1" none "" .medium], [.ofString "b"], []⟩ := by
  have first : importBytes "vbnet" "app" (plainHead ++ oddFrame) =
      .ok ⟨[.issue "app" (.ofString "a") "vbnet:S1" none "" .medium], [], []⟩ :=
    importBytes_frames isFrame_plainHead rfl rfl (.cons isFrame_oddFrame .nil)
  have second : importBytes "vbnet" "app" (plainHead ++ generatedFrame) =
      .ok ⟨[], [.ofString "b"], []⟩ :=
    importBytes_frames isFrame_plainHead rfl rfl (.cons isFrame_generatedFrame .nil)
  exact ⟨isFrame_plainHead, first, second,
    (importBytes_append "vbnet" "app" isFrame_plainHead first second).1⟩

/-! ### Reports that are cut off -/

/-- Records that are cut off between two of them are read as far as they go, and are not read if
they are cut off anywhere else. -/
theorem readFiles_cut {frames : List (List UInt8)} {files : List File}
    (areFrames : List.Forall₂ (IsFrame File.field {}) frames files) {cut : List UInt8}
    (isCut : cut <+: frames.flatten) :
    (∃ count, cut = (frames.take count).flatten) ∨ ∃ error, readFiles cut = .error error := by
  induction areFrames generalizing cut with
  | nil => exact .inl ⟨0, List.prefix_nil.mp isCut⟩
  | @cons frame file frames files isFrame _ ih =>
    rw [List.flatten_cons] at isCut
    by_cases whole : frame <+: cut
    · -- The cut is behind the first record.
      obtain ⟨rest, rfl⟩ := whole
      rcases ih ((List.prefix_append_right_inj frame).mp isCut) with ⟨count, rfl⟩ | ⟨error, fails⟩
      · exact .inl ⟨count + 1, by rw [List.take_succ_cons, List.flatten_cons]⟩
      · exact .inr ⟨error, by rw [readFiles_cons isFrame, fails]; rfl⟩
    · by_cases empty : cut = []
      · exact .inl ⟨0, empty⟩
      · have inside : cut <+: frame :=
          (List.prefix_or_prefix_of_prefix isCut (List.prefix_append frame _)).resolve_right whole
        have proper : cut ≠ frame := fun same => whole (same ▸ List.prefix_rfl)
        obtain ⟨error, fails⟩ := (File.readBy.standAlone.messages {}).cut
          ((File.readBy.standAlone.messages {}).reading isFrame) inside proper
        refine .inr ⟨error, ?_⟩
        rw [readFiles, if_neg empty]
        simp only [fails]

/-- A header that is cut off is not read. -/
theorem read_cut {head cut : List UInt8} {header : Header}
    (isHead : IsFrame Header.field {} head header) (isCut : cut <+: head) (proper : cut ≠ head) :
    read cut = .error .missingHeader ∨ ∃ error, read cut = .error (.wire error) := by
  rw [read]
  split
  · exact .inl rfl
  · obtain ⟨error, fails⟩ := (Header.readBy.standAlone.messages {}).cut
      ((Header.readBy.standAlone.messages {}).reading isHead) isCut proper
    simp only [fails]
    exact .inr ⟨error, rfl⟩

theorem importBytes_of_error (repository : String) (artifact : Artifact) {input : List UInt8}
    {defect : Defect} (fails : read input = .error defect) :
    (Importer.binaryReport repository).importBytes artifact input =
      .error (defect.importError .protobuf artifact.path) := by
  simp only [Importer.importBytes, importBytes, fails]
  rfl

/-- A report of complete frames is imported as far as it goes if it is cut off between two frames
behind the header, and is malformed if it is cut off anywhere else. -/
theorem importBytes_cut (repository : String) (artifact : Artifact) {head : List UInt8}
    {header : Header} (isHead : IsFrame Header.field {} head header)
    (hasMagic : header.magic = magic) (hasVersion : header.version = supportedVersion)
    {frames : List (List UInt8)} {files : List File}
    (areFrames : List.Forall₂ (IsFrame File.field {}) frames files) {cut : List UInt8}
    (isCut : cut <+: head ++ frames.flatten) :
    (∀ count, cut = head ++ (frames.take count).flatten →
      (Importer.binaryReport repository).importBytes artifact cut =
        .ok
          { findings := (files.take count).flatMap (File.reported repository artifact.moduleKey)
            generatedFiles :=
              ((files.take count).filter (·.isGenerated)).map (Path.ofString ·.path)
            warnings := [] }) ∧
      ((∀ count, cut ≠ head ++ (frames.take count).flatten) →
        ∃ message, (Importer.binaryReport repository).importBytes artifact cut =
          .error (.malformed .protobuf artifact.path message)) := by
  constructor
  · rintro count rfl
    rw [← contribution_eq_reported]
    simp only [Importer.importBytes,
      importBytes_frames isHead hasMagic hasVersion (List.forall₂_take count areFrames)]
    rfl
  · intro apart
    by_cases whole : head <+: cut
    · obtain ⟨rest, rfl⟩ := whole
      rcases readFiles_cut areFrames ((List.prefix_append_right_inj head).mp isCut) with
        ⟨count, rfl⟩ | ⟨error, fails⟩
      · exact absurd rfl (apart count)
      · have notRead : read (head ++ rest) = .error (.wire error) := by
          rw [read_append isHead, if_neg (not_not.mpr hasMagic), if_neg (not_not.mpr hasVersion),
            fails]
          rfl
        exact ⟨error.message, importBytes_of_error repository artifact notRead⟩
    · have inside : cut <+: head :=
        (List.prefix_or_prefix_of_prefix isCut (List.prefix_append head _)).resolve_right whole
      have proper : cut ≠ head := fun same => whole (same ▸ List.prefix_rfl)
      rcases read_cut isHead inside proper with notRead | ⟨error, notRead⟩
      · exact ⟨_, importBytes_of_error repository artifact notRead⟩
      · exact ⟨error.message, importBytes_of_error repository artifact notRead⟩

/-- An artifact at a place where nothing is read from. -/
def plainArtifact : Artifact :=
  ⟨"app", .protobuf, .ofString "a.pb"⟩

theorem importBytes_cut_oddFrame :
    IsFrame Header.field {} plainHead { magic, version := supportedVersion } ∧
      List.Forall₂ (IsFrame File.field {}) [oddFrame, generatedFrame]
        [{ path := "a", issues := [{ ruleId := "S1" }] }, { path := "b", isGenerated := true }] ∧
      (plainHead ++ oddFrame <+: plainHead ++ [oddFrame, generatedFrame].flatten ∧
        (Importer.binaryReport "vbnet").importBytes plainArtifact (plainHead ++ oddFrame) =
          .ok ⟨[.issue "app" (.ofString "a") "vbnet:S1" none "" .medium], [], []⟩) ∧
      (plainHead ++ oddFrame ++ [0x05, 0x0A] <+:
          plainHead ++ [oddFrame, generatedFrame].flatten ∧
        ∃ message, (Importer.binaryReport "vbnet").importBytes plainArtifact
          (plainHead ++ oddFrame ++ [0x05, 0x0A]) =
            .error (.malformed .protobuf (.ofString "a.pb") message)) := by
  have areFrames := List.Forall₂.cons isFrame_oddFrame (.cons isFrame_generatedFrame .nil)
  refine ⟨isFrame_plainHead, areFrames, ?_⟩
  have first : plainHead ++ oddFrame <+: plainHead ++ [oddFrame, generatedFrame].flatten := by
    decide
  have second : plainHead ++ oddFrame ++ [0x05, 0x0A] <+:
      plainHead ++ [oddFrame, generatedFrame].flatten := by decide
  have apart (count : Nat) : plainHead ++ oddFrame ++ [0x05, 0x0A] ≠
      plainHead ++ ([oddFrame, generatedFrame].take count).flatten := by
    rcases count with _ | _ | count
    · decide
    · decide
    · rw [List.take_of_length_le (by simp)]
      decide
  exact ⟨⟨first, (importBytes_cut "vbnet" plainArtifact isFrame_plainHead rfl rfl areFrames first).1
      1 (by decide)⟩,
    second, (importBytes_cut "vbnet" plainArtifact isFrame_plainHead rfl rfl areFrames second).2
      apart⟩

end ScanMerge.BinaryReport
