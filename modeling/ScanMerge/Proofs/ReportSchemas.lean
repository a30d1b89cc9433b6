import ScanMerge.Import.BinaryReport
import ScanMerge.Proofs.WireSchemas

/-!
The message types of binary reports, each with the fields that it declares. They are read as their
schemas say.
-/

set_option autoImplicit false

namespace ScanMerge.BinaryReport

open Wire

/-! ### Numbers -/

/-- Of a number without a sign the low 32 bits count. -/
def MeansWord (number : Nat) (value : UInt32) : Prop :=
  number % UInt32.size = value.toNat

/-- Of a number with a sign the low 32 bits count. -/
def MeansSigned (number : Nat) (value : Int32) : Prop :=
  (number : Int) % UInt32.size = value.toInt % UInt32.size

/-- Every number but zero is true. -/
def MeansFlag (number : Nat) (value : Bool) : Prop :=
  value = true ↔ number ≠ 0

theorem meansWord_iff (number : Nat) (value : UInt32) :
    MeansWord number value ↔ UInt32.ofNat number = value := by
  rw [← UInt32.toNat_inj, UInt32.toNat_ofNat']
  exact Iff.rfl

theorem meansSigned_iff (number : Nat) (value : Int32) :
    MeansSigned number value ↔ (UInt32.ofNat number).toInt32 = value := by
  rw [UInt32.toInt32_ofNat', ← Int32.toInt_inj, Int32.toInt_ofNat']
  constructor
  · intro means
    rw [← Int.emod_bmod, ← Int32.toInt_bmod_size value, ← Int.emod_bmod value.toInt]
    exact congrArg (Int.bmod · Int32.size) means
  · intro same
    rw [MeansSigned, ← same]
    exact Int.bmod_emod.symm

theorem meansFlag_iff (number : Nat) (value : Bool) :
    MeansFlag number value ↔ decide (number ≠ 0) = value := by
  rw [Bool.eq_iff_iff, decide_eq_true_iff]
  exact Iff.comm

/-! ### Schemas -/

def Header.schema : MessageSchema Header where
  start := {}
  declarations :=
    [textField 1 (·.magic) ({ · with magic := · }),
      numberField 2 MeansWord (·.version) ({ · with version := · }),
      textField 3 (·.producer) ({ · with producer := · })]
  Ignores := IsSkipped (nestingLimit - 1)
  distinct := by decide
  get_put := by simp [textField, numberField]
  get_put_other := by simp [textField, numberField]
  eq_of_get := by
    rintro ⟨⟩ ⟨⟩ same
    simpa [textField, numberField] using same

def Range.schema : MessageSchema Range where
  start := {}
  declarations :=
    [numberField 1 MeansWord (·.startLine) ({ · with startLine := · }),
      numberField 2 MeansWord (·.startColumn) ({ · with startColumn := · }),
      numberField 3 MeansWord (·.endLine) ({ · with endLine := · }),
      numberField 4 MeansWord (·.endColumn) ({ · with endColumn := · })]
  Ignores := IsSkipped (nestingLimit - 3)
  distinct := by decide
  get_put := by simp [numberField]
  get_put_other := by simp [numberField]
  eq_of_get := by
    rintro ⟨⟩ ⟨⟩ same
    simpa [numberField] using same

def Issue.schema : MessageSchema Issue where
  start := {}
  declarations :=
    [textField 1 (·.ruleId) ({ · with ruleId := · }),
      textField 2 (·.message) ({ · with message := · }),
      submessage 3 Range.schema (·.range) ({ · with range := · }),
      textField 4 (·.severity) ({ · with severity := · })]
  Ignores := IsSkipped (nestingLimit - 2)
  distinct := by decide
  get_put := by simp [textField, submessage]
  get_put_other := by simp [textField, submessage]
  eq_of_get := by
    rintro ⟨⟩ ⟨⟩ same
    simpa [textField, submessage] using same

def Metrics.schema : MessageSchema Metrics where
  start := {}
  declarations :=
    [numberField 1 MeansSigned (·.classes) ({ · with classes := · }),
      numberField 2 MeansSigned (·.statements) ({ · with statements := · }),
      numberField 3 MeansSigned (·.functions) ({ · with functions := · }),
      numberField 4 MeansSigned (·.complexity) ({ · with complexity := · }),
      numberField 5 MeansSigned (·.cognitiveComplexity) ({ · with cognitiveComplexity := · }),
      numberField 6 MeansSigned (·.ncloc) ({ · with ncloc := · }),
      numberField 7 MeansSigned (·.commentLines) ({ · with commentLines := · })]
  Ignores := IsSkipped (nestingLimit - 2)
  distinct := by decide
  get_put := by simp [numberField]
  get_put_other := by simp [numberField]
  eq_of_get := by
    rintro ⟨⟩ ⟨⟩ same
    simpa [numberField] using same

/-- The fields of the record of a file. Its issues are in order. -/
def File.schema : MessageSchema File where
  start := {}
  declarations :=
    [textField 1 (·.path) ({ · with path := · }),
      submessages 2 Issue.schema (·.issues) ({ · with issues := · }),
      submessage 3 Metrics.schema (·.metrics) ({ · with metrics := · }),
      numberField 4 MeansFlag (·.isGenerated) ({ · with isGenerated := · })]
  Ignores := IsSkipped (nestingLimit - 1)
  distinct := by decide
  get_put := by simp [textField, numberField, submessage, submessages]
  get_put_other := by simp [textField, numberField, submessage, submessages]
  eq_of_get := by
    rintro ⟨⟩ ⟨⟩ same
    simpa [textField, numberField, submessage, submessages] using same

/-! ### Reading -/

theorem Header.readBy : ReadBy Header.schema Header.field where
  declared := by
    simp only [schema, List.forall_mem_cons]
    exact ⟨readsDeclared_text "ReportHeader.magic" fun _ _ _ => rfl,
      readsDeclared_number "ReportHeader.version" meansWord_iff fun _ _ _ => rfl,
      readsDeclared_text "ReportHeader.producer" fun _ _ _ => rfl, List.forall_mem_nil _⟩
  others := by
    intro tag apart header wireType
    obtain ⟨first, second, third⟩ : tag ≠ 1 ∧ tag ≠ 2 ∧ tag ≠ 3 := by
      simpa [schema, textField, numberField] using apart
    refine (accepts_unknown header wireType _ tag).of_eq fun input => ?_
    simp only [field]

theorem Range.readBy : ReadBy Range.schema Range.field where
  declared := by
    simp only [schema, List.forall_mem_cons]
    exact ⟨readsDeclared_number "TextRangeRecord.start_line" meansWord_iff fun _ _ _ => rfl,
      readsDeclared_number "TextRangeRecord.start_column" meansWord_iff fun _ _ _ => rfl,
      readsDeclared_number "TextRangeRecord.end_line" meansWord_iff fun _ _ _ => rfl,
      readsDeclared_number "TextRangeRecord.end_column" meansWord_iff fun _ _ _ => rfl,
      List.forall_mem_nil _⟩
  others := by
    intro tag apart range wireType
    obtain ⟨first, second, third, fourth⟩ : tag ≠ 1 ∧ tag ≠ 2 ∧ tag ≠ 3 ∧ tag ≠ 4 := by
      simpa [schema, numberField] using apart
    refine (accepts_unknown range wireType _ tag).of_eq fun input => ?_
    simp only [field]

theorem Issue.readBy : ReadBy Issue.schema Issue.field where
  declared := by
    simp only [schema, List.forall_mem_cons]
    exact ⟨readsDeclared_text "IssueRecord.rule_id" fun _ _ _ => rfl,
      readsDeclared_text "IssueRecord.message" fun _ _ _ => rfl,
      readsDeclared_submessage "IssueRecord.text_range" Range.readBy fun _ _ _ => rfl,
      readsDeclared_text "IssueRecord.severity" fun _ _ _ => rfl, List.forall_mem_nil _⟩
  others := by
    intro tag apart issue wireType
    obtain ⟨first, second, third, fourth⟩ : tag ≠ 1 ∧ tag ≠ 2 ∧ tag ≠ 3 ∧ tag ≠ 4 := by
      simpa [schema, textField, submessage] using apart
    refine (accepts_unknown issue wireType _ tag).of_eq fun input => ?_
    simp only [field]

theorem Metrics.readBy : ReadBy Metrics.schema Metrics.field where
  declared := by
    simp only [schema, List.forall_mem_cons]
    exact ⟨readsDeclared_number "MetricsRecord.classes" meansSigned_iff fun _ _ _ => rfl,
      readsDeclared_number "MetricsRecord.statements" meansSigned_iff fun _ _ _ => rfl,
      readsDeclared_number "MetricsRecord.functions" meansSigned_iff fun _ _ _ => rfl,
      readsDeclared_number "MetricsRecord.complexity" meansSigned_iff fun _ _ _ => rfl,
      readsDeclared_number "MetricsRecord.cognitive_complexity" meansSigned_iff fun _ _ _ => rfl,
      readsDeclared_number "MetricsRecord.ncloc" meansSigned_iff fun _ _ _ => rfl,
      readsDeclared_number "MetricsRecord.comment_lines" meansSigned_iff fun _ _ _ => rfl,
      List.forall_mem_nil _⟩
  others := by
    intro tag apart metrics wireType
    obtain ⟨first, second, third, fourth, fifth, sixth, seventh⟩ :
        tag ≠ 1 ∧ tag ≠ 2 ∧ tag ≠ 3 ∧ tag ≠ 4 ∧ tag ≠ 5 ∧ tag ≠ 6 ∧ tag ≠ 7 := by
      simpa [schema, numberField] using apart
    refine (accepts_unknown metrics wireType _ tag).of_eq fun input => ?_
    simp only [field]

theorem File.readBy : ReadBy File.schema File.field where
  declared := by
    simp only [schema, List.forall_mem_cons]
    exact ⟨readsDeclared_text "FileReport.file_path" fun _ _ _ => rfl,
      readsDeclared_submessages "FileReport.issues" Issue.readBy fun _ _ _ => rfl,
      readsDeclared_submessage "FileReport.metrics" Metrics.readBy fun _ _ _ => rfl,
      readsDeclared_number "FileReport.is_generated" meansFlag_iff fun _ _ _ => rfl,
      List.forall_mem_nil _⟩
  others := by
    intro tag apart file wireType
    obtain ⟨first, second, third, fourth⟩ : tag ≠ 1 ∧ tag ≠ 2 ∧ tag ≠ 3 ∧ tag ≠ 4 := by
      simpa [schema, textField, numberField, submessage, submessages] using apart
    refine (accepts_unknown file wireType _ tag).of_eq fun input => ?_
    simp only [field]

end ScanMerge.BinaryReport
