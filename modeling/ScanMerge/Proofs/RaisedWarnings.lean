import Mathlib.Data.List.Forall2
import ScanMerge.Proofs.RecordedDigests

/-!
The warnings that are raised while collecting. Each conflict, each record that cannot be decoded,
each module that differs from the one before and each file that is left out raises one warning, and
nothing else does.
-/

set_option autoImplicit false

namespace ScanMerge

namespace Session

@[simp] theorem kind_moduleWarning (moduleKey : String) (kept : Module) :
    (moduleWarning moduleKey kept).kind = .moduleConflict := rfl

@[simp] theorem kind_encodingWarning (moduleKey : String) (record : FileRecord) :
    (encodingWarning moduleKey record).kind = .wrongEncoding := rfl

@[simp] theorem kind_conflictWarning (moduleKey : String) (conflict : Conflict) :
    (conflictWarning moduleKey conflict).kind = .conflict := rfl

@[simp] theorem kind_exclusionWarning (moduleKey : String) (error : PathError) :
    (exclusionWarning moduleKey error).kind = .excludedFile := rfl

/-- The warnings of a kind, in the order in which they were raised. -/
def warningsOf (session : Session) (kind : WarningKind) : List Warning :=
  session.warnings.filter (·.kind = kind)

end Session

/-- The warning about a conflict, which is for the module whose content was rejected. -/
def Conflict.warning (found : Conflict) : Warning :=
  Session.conflictWarning found.rejectedModule found

/-- The warning about a record that cannot be decoded, which is for the module of the record. -/
def FileRecord.warning (record : FileRecord) : Warning :=
  Session.encodingWarning record.moduleKey record

@[simp] theorem Conflict.kind_warning (found : Conflict) : found.warning.kind = .conflict := rfl

@[simp] theorem FileRecord.kind_warning (record : FileRecord) :
    record.warning.kind = .wrongEncoding := rfl

namespace Step

def raised (step : Step) : List Warning :=
  step.after.session.warnings.drop step.before.session.warnings.length

/-- The warning about a module that the step registered and that differs from the one before. -/
def moduleConflict? (step : Step) : Option Warning :=
  match step.call, step.answer with
  | .register (.module registered), .registered (.ok (.module (.conflicting kept))) =>
    some (Session.moduleWarning registered.key kept)
  | _, _ => none

/-- The step registered a file and left it out. -/
def isLeftOut (step : Step) : Bool :=
  match step.answer with
  | .registered (.ok (.file none)) => true
  | _ => false

/-- The step left out a file for an error, and the warning is about both. -/
def LeavesOut (step : Step) (warning : Warning) : Prop :=
  ∃ moduleKey path module error, step.call = .register (.file moduleKey path) ∧
    step.answer = .registered (.ok (.file none)) ∧
    step.before.session.modules.get? moduleKey = some module ∧
    step.disk.source module.root path = .error error ∧
    warning = Session.exclusionWarning moduleKey error

/-- The files of the session are the same after the step. -/
def KeepsFiles (step : Step) : Prop :=
  step.after.session.files = step.before.session.files

/-- What a step adds to the warnings, and for which reason. -/
inductive Raises (step : Step) : List Warning → Prop
  | conflict {record : FileRecord} (found : Conflict)
    (answer : step.answer = .registered (.ok (.file (some record))))
    (conflicts : step.after.session.files.conflicts =
      step.before.session.files.conflicts ++ [found])
    (records : step.after.session.files.records = step.before.session.files.records) :
    Raises step [found.warning]
  | recorded (record : FileRecord)
    (answer : step.answer = .registered (.ok (.file (some record))))
    (conflicts : step.after.session.files.conflicts = step.before.session.files.conflicts)
    (records : step.after.session.files.records =
      FileIndex.insertRecord record step.before.session.files.records) :
    Raises step (if record.wrongEncoding then [record.warning] else [])
  | module (registered : Module) (given : ModuleRegistration)
    (call : step.call = .register (.module registered))
    (answer : step.answer = .registered (.ok (.module given))) (files : step.KeepsFiles) :
    Raises step (given.warnings registered.key)
  | leftOut (warning : Warning) (leaves : step.LeavesOut warning) (files : step.KeepsFiles) :
    Raises step [warning]
  | nothing (noModule : step.moduleConflict? = none) (noFile : step.isLeftOut = false)
    (files : step.KeepsFiles) : Raises step []

section Raises

variable {step : Step}

theorem moduleConflict?_eq_none
    (other : ∀ given, step.answer ≠ .registered (.ok (.module given))) :
    step.moduleConflict? = none := by
  rw [moduleConflict?]
  split
  · next answer => exact absurd answer (other _)
  · rfl

/-- Registering a file that can be read. -/
theorem raises_of_file (agrees : step.before.session.files.Agrees) {moduleKey : String}
    {module : Module} {path : Path} {registration : FileRegistration} {files : FileIndex}
    (readable : step.before.session.files.register step.disk moduleKey module.root path =
      .ok (registration, files))
    (answer : step.answer = .registered (.ok (.file (some registration.record))))
    (after : step.after.session.files = files) :
    step.Raises (registration.warnings moduleKey) := by
  obtain ⟨source, -, registered⟩ := FileIndex.source_of_register_ok readable
  cases recorded : step.before.session.files.find? source.path with
  | none =>
    rw [agrees.registerContent_of_absent moduleKey recorded] at registered
    obtain ⟨rfl, rfl⟩ := Prod.mk.inj registered
    exact .recorded _ answer (by rw [after]; rfl) (by rw [after]; rfl)
  | some record =>
    by_cases same : record.hash = digest source.content
    · rw [agrees.registerContent_of_same moduleKey recorded same] at registered
      obtain ⟨rfl, rfl⟩ := Prod.mk.inj registered
      refine .nothing ?_ ?_ after
      · exact moduleConflict?_eq_none (by simp [answer])
      · rw [isLeftOut, answer]
    · rw [agrees.registerContent_of_different moduleKey recorded same] at registered
      obtain ⟨rfl, rfl⟩ := Prod.mk.inj registered
      exact .conflict _ answer (by rw [after]; rfl) (by rw [after])

/-- A step adds warnings at the end, for one of the reasons. -/
theorem Genuine.raises (genuine : step.Genuine) (agrees : step.before.session.files.Agrees) :
    ∃ raised, step.after.session.warnings = step.before.session.warnings ++ raised ∧
      step.Raises raised := by
  have performed := genuine.performed
  obtain ⟨before, disk, call, answer, after⟩ := step
  cases call with
  | register registration =>
    have registers := before.session.registers disk registration
    simp only [Aggregation.perform] at performed
    generalize before.session.register disk registration = outcome at registers performed
    cases registers with
    | left | unknown =>
      cases performed
      exact ⟨[], (List.append_nil _).symm, .nothing (moduleConflict?_eq_none (by simp)) rfl rfl⟩
    | artifact | method | telemetry | document =>
      cases performed
      exact ⟨[], (List.append_nil _).symm, .nothing rfl rfl rfl⟩
    | module collecting registered =>
      cases performed
      exact ⟨_, rfl, .module registered _ rfl rfl rfl⟩
    | unreadable collecting known unreadable =>
      cases performed
      have failed := FileIndex.source_of_register_error unreadable
      exact ⟨_, rfl, .leftOut _ ⟨_, _, _, _, rfl, rfl, known, failed, rfl⟩ rfl⟩
    | file collecting known readable =>
      cases performed
      exact ⟨_, rfl, raises_of_file agrees readable rfl rfl⟩
  | beginDraining | drain | result | phase =>
    have becomes : before.Becomes _ after := genuine.becomes
    have answers : answer.For _ := genuine.answers
    have same : after.session.warnings = before.session.warnings ∧
        after.session.files = before.session.files := by
      cases becomes <;> exact ⟨rfl, rfl⟩
    refine ⟨[], ?_, .nothing rfl ?_ same.2⟩
    · rw [List.append_nil]
      exact same.1
    · cases answers
      all_goals rfl

end Raises

section Kinds

variable {step : Step} {raised : List Warning} (raises : step.Raises raised)

include raises

theorem Raises.length_le_one : raised.length ≤ 1 := by
  cases raises with
  | conflict | leftOut | nothing => simp
  | recorded record => split <;> simp
  | module registered given => cases given <;> simp [ModuleRegistration.warnings]

theorem Raises.kind {warning : Warning} (member : warning ∈ raised) :
    warning.kind = .conflict ∨ warning.kind = .wrongEncoding ∨ warning.kind = .moduleConflict ∨
      warning.kind = .excludedFile := by
  cases raises with
  | conflict found answer conflicts records => simp_all
  | recorded record answer conflicts records =>
    split at member <;> simp_all
  | module registered given call answer files =>
    cases given <;> simp_all [ModuleRegistration.warnings]
  | leftOut warning leaves files =>
    obtain ⟨moduleKey, path, module, error, -, -, -, -, rfl⟩ := leaves
    simp_all
  | nothing => cases member

/-- The warnings about conflicts grow with the conflicts. -/
theorem Raises.conflicts :
    step.after.session.files.conflicts.map Conflict.warning =
      step.before.session.files.conflicts.map Conflict.warning ++
        raised.filter (·.kind = .conflict) := by
  cases raises with
  | conflict found answer conflicts records => simp [conflicts]
  | recorded record answer conflicts records =>
    rw [conflicts]
    split <;> simp
  | module registered given call answer files =>
    rw [files]
    cases given <;> simp [ModuleRegistration.warnings]
  | leftOut warning leaves files =>
    obtain ⟨moduleKey, path, module, error, -, -, -, -, rfl⟩ := leaves
    rw [files]
    simp
  | nothing noModule noFile files =>
    rw [files]
    simp

/-- The warnings about records grow with the records that cannot be decoded. -/
theorem Raises.records :
    ((step.after.session.files.records.filter FileRecord.wrongEncoding).map
        FileRecord.warning).Perm
      ((step.before.session.files.records.filter FileRecord.wrongEncoding).map
          FileRecord.warning ++ raised.filter (·.kind = .wrongEncoding)) := by
  cases raises with
  | conflict found answer conflicts records => simp [records]
  | recorded record answer conflicts records =>
    have inserted := ((FileIndex.insertRecord_perm record
      step.before.session.files.records).filter FileRecord.wrongEncoding).map FileRecord.warning
    rw [records]
    refine inserted.trans ?_
    by_cases wrong : record.wrongEncoding = true
    · simpa [wrong] using (List.perm_append_singleton _ _).symm
    · simp [wrong]
  | module registered given call answer files =>
    rw [files]
    cases given <;> simp [ModuleRegistration.warnings]
  | leftOut warning leaves files =>
    obtain ⟨moduleKey, path, module, error, -, -, -, -, rfl⟩ := leaves
    rw [files]
    simp
  | nothing noModule noFile files =>
    rw [files]
    simp

theorem Raises.modules :
    raised.filter (·.kind = .moduleConflict) = step.moduleConflict?.toList := by
  have ofFile {record? : Option FileRecord}
      (answer : step.answer = .registered (.ok (.file record?))) :
      step.moduleConflict? = none := moduleConflict?_eq_none (by simp [answer])
  cases raises with
  | conflict found answer conflicts records => simp [ofFile answer]
  | recorded record answer conflicts records =>
    rw [ofFile answer]
    split <;> simp
  | module registered given call answer files =>
    rw [moduleConflict?, call, answer]
    cases given <;> simp [ModuleRegistration.warnings]
  | leftOut warning leaves files =>
    obtain ⟨moduleKey, path, module, error, -, answer, -, -, rfl⟩ := leaves
    simp [ofFile answer]
  | nothing noModule noFile files => simp [noModule]

theorem Raises.exclusions :
    List.Forall₂ LeavesOut ([step].filter isLeftOut) (raised.filter (·.kind = .excludedFile)) := by
  cases raises with
  | conflict found answer conflicts records => simp [isLeftOut, answer]
  | recorded record answer conflicts records =>
    split <;> simp [isLeftOut, answer]
  | module registered given call answer files =>
    cases given <;> simp [ModuleRegistration.warnings, isLeftOut, answer]
  | leftOut warning leaves files =>
    have left : step.isLeftOut = true := by
      obtain ⟨moduleKey, path, module, error, -, answer, -⟩ := leaves
      rw [isLeftOut, answer]
    have kind : warning.kind = .excludedFile := by
      obtain ⟨moduleKey, path, module, error, -, -, -, -, rfl⟩ := leaves
      rfl
    simpa [left, kind] using leaves
  | nothing noModule noFile files => simp [noFile]

end Kinds

end Step

/-- What is said of the warnings of a session after a history. -/
structure ReportsOnce (history : List Step) (session : Session) : Prop where
  /-- The warnings are those of the steps, in the order of the calls. -/
  inOrder : session.warnings = history.flatMap Step.raised
  /-- A step adds its warnings, one at most, for one of the reasons. -/
  added : ∀ step ∈ history,
    step.after.session.warnings = step.before.session.warnings ++ step.raised ∧
      step.Raises step.raised ∧ step.raised.length ≤ 1
  conflicts : session.warningsOf .conflict = session.files.conflicts.map Conflict.warning
  encodings : (session.warningsOf .wrongEncoding).Perm
    ((session.files.records.filter FileRecord.wrongEncoding).map FileRecord.warning)
  modules : session.warningsOf .moduleConflict = history.filterMap Step.moduleConflict?
  exclusions : List.Forall₂ Step.LeavesOut (history.filter Step.isLeftOut)
    (session.warningsOf .excludedFile)
  kinds : ∀ warning ∈ session.warnings, warning.kind = .conflict ∨
    warning.kind = .wrongEncoding ∨ warning.kind = .moduleConflict ∨ warning.kind = .excludedFile

theorem reportsOnce_ofSettings (settings : Settings) : ReportsOnce [] (.ofSettings settings) where
  inOrder := rfl
  added _ member := absurd member List.not_mem_nil
  conflicts := rfl
  encodings := .refl _
  modules := rfl
  exclusions := .nil
  kinds _ member := absurd member List.not_mem_nil

theorem ReportsOnce.step {history : List Step} {step : Step}
    (reports : ReportsOnce history step.before.session) (genuine : step.Genuine)
    (agrees : step.before.session.files.Agrees) :
    ReportsOnce (history ++ [step]) step.after.session := by
  obtain ⟨raised, added, raises⟩ := genuine.raises agrees
  have own : step.raised = raised := by rw [Step.raised, added, List.drop_left]
  have ofKind : ∀ kind, step.after.session.warningsOf kind =
      step.before.session.warningsOf kind ++ raised.filter (·.kind = kind) := by
    intro kind
    rw [Session.warningsOf, added, List.filter_append, Session.warningsOf]
  constructor
  case inOrder => rw [added, reports.inOrder]; simp [own]
  case added =>
    intro other member
    rcases List.mem_append.mp member with member | member
    · exact reports.added other member
    · rw [List.mem_singleton.mp member, own]
      exact ⟨added, raises, raises.length_le_one⟩
  case conflicts => rw [ofKind, reports.conflicts, raises.conflicts]
  case encodings =>
    rw [ofKind]
    exact (reports.encodings.append_right _).trans raises.records.symm
  case modules =>
    rw [ofKind, reports.modules, raises.modules, List.filterMap_append]
    cases found : step.moduleConflict? <;> simp [found]
  case exclusions =>
    rw [ofKind, List.filter_append]
    exact List.rel_append reports.exclusions raises.exclusions
  case kinds =>
    intro warning member
    rw [added] at member
    rcases List.mem_append.mp member with member | member
    · exact reports.kinds warning member
    · exact raises.kind member

namespace Aggregation

/-- Whatever is called, the warnings of the session tell once of everything there is to tell. -/
theorem run_reportsOnce (settings : Settings) (registry : Registry) (calls : List (Disk × Call)) :
    ReportsOnce ((start settings registry).history calls)
      ((start settings registry).run calls).session := by
  have next : ∀ past step, step.Genuine →
      ReportsOnce past step.before.session ∧ step.before.session.files.Agrees →
      ReportsOnce (past ++ [step]) step.after.session ∧ step.after.session.files.Agrees := by
    intro past step genuine ⟨reports, agrees⟩
    exact ⟨reports.step genuine agrees, genuine.agrees agrees⟩
  have begins : ReportsOnce [] (start settings registry).session ∧
      (start settings registry).session.files.Agrees :=
    ⟨reportsOnce_ofSettings settings, FileIndex.agrees_ofSettings settings⟩
  exact (history_keeps (P := fun past aggregation =>
    ReportsOnce past aggregation.session ∧ aggregation.session.files.Agrees) next
      (coherent_start settings registry) [] begins calls).1

end Aggregation

end ScanMerge
