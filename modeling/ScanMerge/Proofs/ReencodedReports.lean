import ScanMerge.Proofs.ReportFrames

/-!
Binary reports that another writer encoded. The fields of a message may stand in any order, as long
as the issues of a file keep theirs, and fields that are not known may stand between them. The bytes
that are imported are those of such a report, and it is imported by what its messages say.
-/

set_option autoImplicit false

namespace ScanMerge.BinaryReport

open Wire

/-- The bytes are a report of the files: a header and then a frame for each of them. -/
def Spells (files : List File) (bytes : List UInt8) : Prop :=
  ∃ head header frames, bytes = head ++ List.flatten frames ∧
    SpellsFrame Header.schema {} head header ∧ header.magic = magic ∧
    header.version = supportedVersion ∧ List.Forall₂ (SpellsFrame File.schema {}) frames files

/-- A report that is read starts with the frame of a header. -/
theorem exists_head {input : List UInt8} {files : List File} (reads : read input = .ok files) :
    ∃ head header rest, input = head ++ rest ∧ IsFrame Header.field {} head header := by
  rw [read] at reads
  split at reads
  · cases reads
  · split at reads
    · cases reads
    · next header rest shorter readsHeader =>
      obtain ⟨head, rfl, isHead⟩ := Header.readBy.standAlone.exists_frame ⟨shorter, readsHeader⟩
      exact ⟨head, header, rest, rfl, isHead⟩

/-- The bytes that are read as a report are those that spell it. -/
theorem read_eq_ok_iff {files : List File} {bytes : List UInt8} :
    read bytes = .ok files ↔ Spells files bytes := by
  constructor
  · intro reads
    obtain ⟨head, header, rest, rfl, isHead⟩ := exists_head reads
    obtain ⟨hasMagic, hasVersion, readsFiles⟩ := (read_append_eq_ok_iff isHead).mp reads
    obtain ⟨frames, rfl, areFrames⟩ := exists_frames readsFiles
    exact ⟨head, header, frames, rfl, Header.readBy.isFrame_iff.mp isHead, hasMagic, hasVersion,
      areFrames.imp fun _ _ isFrame => File.readBy.isFrame_iff.mp isFrame⟩
  · rintro ⟨head, header, frames, rfl, isHead, hasMagic, hasVersion, areFrames⟩
    have complete := readFiles_flatten
      (areFrames.imp fun _ _ spells => File.readBy.isFrame_iff.mpr spells)
    exact (read_append_eq_ok_iff (Header.readBy.isFrame_iff.mpr isHead)).mpr
      ⟨hasMagic, hasVersion, complete⟩

/-- Nothing is imported but reports, and they contribute what the records of their files say. -/
theorem importBytes_eq_ok_iff {repository moduleKey : String} {bytes : List UInt8}
    {contributed : Contribution} :
    importBytes repository moduleKey bytes = .ok contributed ↔
      ∃ files, Spells files bytes ∧ contribution moduleKey repository files = contributed := by
  constructor
  · intro imports
    obtain ⟨files, reads, rfl⟩ := exists_of_map_eq_ok imports
    exact ⟨files, read_eq_ok_iff.mp reads, rfl⟩
  · rintro ⟨files, spells, rfl⟩
    rw [importBytes, read_eq_ok_iff.mpr spells]
    rfl

/-- A report is imported by what its messages say, in whatever order their fields stand, and
whatever fields that are not known stand between them. Any other report of the same messages gives
the same findings and generated files. -/
theorem importBytes_spelled (repository moduleKey : String) {files : List File}
    {bytes : List UInt8} (spells : Spells files bytes) :
    importBytes repository moduleKey bytes =
        .ok
          { findings := files.flatMap (File.reported repository moduleKey)
            generatedFiles := (files.filter (·.isGenerated)).map (Path.ofString ·.path)
            warnings := [] } ∧
      ∀ original, read original = .ok files →
        importBytes repository moduleKey original = importBytes repository moduleKey bytes := by
  constructor
  · exact importBytes_eq_ok_iff.mpr
      ⟨files, spells, contribution_eq_reported moduleKey repository files⟩
  · intro original reads
    rw [importBytes, importBytes, reads, read_eq_ok_iff.mpr spells]

/-- A header whose version stands before its magic text, with an unknown number between them. -/
def reorderedHead : List RawField :=
  [⟨⟨2, .varint⟩, [0x10], [0x01], ⟨by decide, isVarint_byte 0x10 (by decide)⟩⟩,
    ⟨⟨9, .thirtyTwoBit⟩, [0x4D], [1, 2, 3, 4], ⟨by decide, isVarint_byte 0x4D (by decide)⟩⟩,
    ⟨⟨1, .lengthDelimited⟩, [0x0A], 0x0F :: Text.Utf8.encodeString magic,
      ⟨by decide, isVarint_byte 0x0A (by decide)⟩⟩]

/-- An issue whose message stands before its rule. -/
def reorderedIssue : List RawField :=
  [⟨⟨2, .lengthDelimited⟩, [0x12], [0x01, 0x6D], ⟨by decide, isVarint_byte 0x12 (by decide)⟩⟩,
    ⟨⟨1, .lengthDelimited⟩, [0x0A], [0x02, 0x53, 0x31],
      ⟨by decide, isVarint_byte 0x0A (by decide)⟩⟩]

def unknownGroup : List RawField :=
  [⟨⟨1, .varint⟩, [0x08], [0x05], ⟨by decide, isVarint_byte 0x08 (by decide)⟩⟩]

/-- The record of a file that is generated. It says so before an issue, an unknown group and its
path. -/
def reorderedFile : List RawField :=
  [⟨⟨4, .varint⟩, [0x20], [0x01], ⟨by decide, isVarint_byte 0x20 (by decide)⟩⟩,
    ⟨⟨2, .lengthDelimited⟩, [0x12], 0x07 :: fieldBytes reorderedIssue,
      ⟨by decide, isVarint_byte 0x12 (by decide)⟩⟩,
    ⟨⟨5, .startGroup⟩, [0x2B], fieldBytes unknownGroup ++ [0x2C],
      ⟨by decide, isVarint_byte 0x2B (by decide)⟩⟩,
    ⟨⟨1, .lengthDelimited⟩, [0x0A], [0x01, 0x61], ⟨by decide, isVarint_byte 0x0A (by decide)⟩⟩]

theorem reorderedHead_spells :
    Header.schema.Spells (reorderedHead.map RawField.item) {}
      { magic, version := supportedVersion } where
  declared := by
    simp only [Header.schema, List.forall_mem_cons]
    refine ⟨.one ⟨rfl, [0x0F], isVarint_byte 0x0F (by decide), rfl⟩,
      .one ⟨rfl, 1, isVarint_byte 0x01 (by decide), rfl⟩,
      .done _, List.forall_mem_nil _⟩
  others := by
    have number : IsSkipped (nestingLimit - 1) 9 (.thirtyTwoBit, [1, 2, 3, 4]) :=
      WellFormed.thirtyTwoBit rfl
    simpa [reorderedHead, RawField.item, Header.schema, textField, numberField] using number

theorem reorderedIssue_spells :
    Issue.schema.Spells (reorderedIssue.map RawField.item) {}
      { ruleId := "S1", message := "m" } where
  declared := by
    simp only [Issue.schema, List.forall_mem_cons]
    refine ⟨.one ⟨rfl, [0x02], isVarint_byte 0x02 (by decide), rfl⟩,
      .one ⟨rfl, [0x01], isVarint_byte 0x01 (by decide), rfl⟩,
      .done _, .done _, List.forall_mem_nil _⟩
  others := by
    simp [reorderedIssue, RawField.item, Issue.schema, textField, submessage]

theorem reorderedFile_spells :
    File.schema.Spells (reorderedFile.map RawField.item) {}
      { path := "a", issues := [{ ruleId := "S1", message := "m" }], isGenerated := true } where
  declared := by
    simp only [File.schema, List.forall_mem_cons]
    refine ⟨.one ⟨rfl, [0x01], isVarint_byte 0x01 (by decide), rfl⟩,
      .one ⟨rfl, _, ⟨reorderedIssue, ⟨[0x07], isVarint_byte 0x07 (by decide), rfl⟩,
        reorderedIssue_spells⟩, rfl⟩,
      .done _,
      .one ⟨rfl, 1, isVarint_byte 0x01 (by decide), fun _ => Nat.one_ne_zero, fun _ => rfl⟩,
      List.forall_mem_nil _⟩
  others := by
    have inner : ∀ field ∈ unknownGroup,
        WellFormed (nestingLimit - 2) field.key field.value := by
      simp only [unknownGroup, List.forall_mem_cons]
      exact ⟨.varint (isVarint_byte 0x05 (by decide)), List.forall_mem_nil _⟩
    have group : IsSkipped (nestingLimit - 1) 5 (.startGroup, fieldBytes unknownGroup ++ [0x2C]) :=
      WellFormed.group inner ⟨by decide, isVarint_byte 0x2C (by decide)⟩
    simpa [reorderedFile, RawField.item, File.schema, textField, numberField, submessage,
      submessages] using group

def reorderedReport : List UInt8 :=
  0x18 :: fieldBytes reorderedHead ++ 0x12 :: fieldBytes reorderedFile

theorem importBytes_spelled_reorderedReport :
    Spells
        [{ path := "a", issues := [{ ruleId := "S1", message := "m" }], isGenerated := true }]
        reorderedReport ∧
      importBytes "vbnet" "app" reorderedReport =
        .ok ⟨[.issue "app" (.ofString "a") "vbnet:S1" none "m" .medium], [.ofString "a"], []⟩ := by
  have spells : Spells
      [{ path := "a", issues := [{ ruleId := "S1", message := "m" }], isGenerated := true }]
      reorderedReport :=
    ⟨0x18 :: fieldBytes reorderedHead, _, [0x12 :: fieldBytes reorderedFile],
      by rw [List.flatten_singleton]; rfl,
      ⟨reorderedHead, ⟨[0x18], isVarint_byte 0x18 (by decide), rfl⟩, reorderedHead_spells⟩,
      rfl, rfl,
      .cons ⟨reorderedFile, ⟨[0x12], isVarint_byte 0x12 (by decide), rfl⟩, reorderedFile_spells⟩
        .nil⟩
  exact ⟨spells, (importBytes_spelled "vbnet" "app" spells).1⟩

end ScanMerge.BinaryReport
