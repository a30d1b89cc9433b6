import ScanMerge.Proofs.Deliveries
import ScanMerge.Proofs.Lifecycle

/-!
What a session holds after a history: the modules and facts of the registrations that the history
accepted, and nothing else.
-/

set_option autoImplicit false

namespace ScanMerge

namespace Registration

def isArtifact : Registration → Bool
  | .artifact _ _ _ => true
  | _ => false

def registeredKey? : Registration → Option String
  | .module registered => some registered.key
  | _ => none

end Registration

/-- The registration that a step brought about. -/
def Step.accepted? (step : Step) : Option Registration :=
  match step.call, step.answer with
  | .register registration, .registered (.ok _) => some registration
  | _, _ => none

/-- The registrations that were accepted in a history, in their order. -/
def acceptedRegistrations (history : List Step) : List Registration :=
  history.filterMap Step.accepted?

namespace Session

/-- The session holds what was accepted. -/
structure Collects (session : Session) (accepted : List Registration) : Prop where
  modules : ∀ key, (session.modules.get? key).isSome = true ↔
    key ∈ accepted.filterMap Registration.registeredKey?
  artifacts : session.artifacts.size = accepted.countP Registration.isArtifact
  telemetry : ∀ moduleKey entry, entry ∈ session.telemetry.of moduleKey ↔
    Registration.telemetry moduleKey entry ∈ accepted
  documents : ∀ moduleKey document, document ∈ session.documents.of moduleKey ↔
    Registration.document moduleKey document ∈ accepted

theorem collects_ofSettings (settings : Settings) : (ofSettings settings).Collects [] where
  modules _ := by simp [ofSettings]
  artifacts := rfl
  telemetry _ _ := by simp [ofSettings]
  documents _ _ := by simp [ofSettings]

theorem isSome_get?_register (table : ModuleTable) (module : Module) (key : String) :
    ((table.register module).2.get? key).isSome = true ↔
      key = module.key ∨ (table.get? key).isSome = true := by
  rw [ModuleTable.snd_register]
  by_cases own : key = module.key
  · subst own
    simp
  · simp [KeyMap.get?_update_of_ne table own, own]

variable {session : Session} {accepted : List Registration} (collects : session.Collects accepted)

include collects

theorem Collects.register {after : Session} {disk : Disk} {registration : Registration}
    {answer : Registration.Answer}
    (registered : session.register disk registration = .ok (answer, after)) :
    after.Collects (accepted ++ [registration]) := by
  have registers := session.registers disk registration
  rw [registered] at registers
  constructor
  case modules =>
    intro key
    cases registers with
    | module collecting module =>
      simp [isSome_get?_register, collects.modules, List.filterMap_append,
        Registration.registeredKey?, or_comm]
    | artifact | unreadable | file | method | telemetry | document =>
      simpa [Session.warn, List.filterMap_append, Registration.registeredKey?] using
        collects.modules key
  case artifacts =>
    cases registers with
    | artifact collecting known kind path =>
      simp [Facts.size_push, collects.artifacts, Registration.isArtifact]
    | module | unreadable | file | method | telemetry | document =>
      simpa [Session.warn, Registration.isArtifact] using collects.artifacts
  case telemetry =>
    intro moduleKey entry
    cases registers with
    | telemetry collecting known registered =>
      simp [Facts.mem_of_push, collects.telemetry, or_comm]
    | module | artifact | unreadable | file | method | document =>
      simpa [Session.warn] using collects.telemetry moduleKey entry
  case documents =>
    intro moduleKey document
    cases registers with
    | document collecting known registered =>
      simp [Facts.mem_of_push, collects.documents, or_comm]
    | module | artifact | unreadable | file | method | telemetry =>
      simpa [Session.warn] using collects.documents moduleKey document

end Session

namespace Aggregation

section Accepted

variable {P : Session → List Registration → Prop}
  (anyPhase : ∀ session phase accepted, P session accepted → P { session with phase } accepted)
  (register : ∀ session disk registration answer after accepted, P session accepted →
    session.register disk registration = .ok (answer, after) →
    P after (accepted ++ [registration]))

include anyPhase register

theorem perform_accepted {aggregation : Aggregation} {accepted : List Registration}
    (holds : P aggregation.session accepted) (disk : Disk) (call : Call) :
    P (aggregation.perform disk call).2.session
      (accepted ++ (Step.accepted? ⟨aggregation, disk, call, (aggregation.perform disk call).1,
        (aggregation.perform disk call).2⟩).toList) := by
  have becomes := aggregation.perform_becomes disk call
  cases call with
  | register registration =>
    simp only [perform]
    cases registered : aggregation.session.register disk registration with
    | ok outcome => exact register _ _ _ _ _ _ holds registered
    | error error => simpa [Step.accepted?] using holds
  | beginDraining | drain | result | phase =>
    simp only [Step.accepted?, Option.toList_none, List.append_nil]
    generalize (aggregation.perform disk _).2 = after at becomes ⊢
    cases becomes with
    | unchanged => exact holds
    | _ => exact anyPhase _ _ _ holds

/-- A run keeps, of the session and of what its history accepted, what each accepted registration
keeps, if the phase does not matter for it. -/
theorem run_accepted {settings : Settings} (begins : P (.ofSettings settings) [])
    (registry : Registry) (calls : List (Disk × Call)) :
    P ((start settings registry).run calls).session
      (acceptedRegistrations ((start settings registry).history calls)) := by
  have next (past : List Step) (step : Step) (genuine : step.Genuine)
      (holds : P step.before.session (acceptedRegistrations past)) :
      P step.after.session (acceptedRegistrations (past ++ [step])) := by
    have kept := perform_accepted anyPhase register holds step.disk step.call
    rw [genuine.performed] at kept
    rwa [acceptedRegistrations, filterMap_snoc]
  exact history_keeps (P := fun past aggregation =>
    P aggregation.session (acceptedRegistrations past)) next (coherent_start settings registry) []
      begins calls

end Accepted

/-- A run holds what its history accepted. -/
theorem run_collects (settings : Settings) (registry : Registry) (calls : List (Disk × Call)) :
    ((start settings registry).run calls).session.Collects
      (acceptedRegistrations ((start settings registry).history calls)) := by
  apply run_accepted
  case anyPhase =>
    intro session phase accepted collects
    exact ⟨collects.modules, collects.artifacts, collects.telemetry, collects.documents⟩
  case register =>
    intro session disk registration answer after accepted collects registered
    exact collects.register registered
  case begins => exact Session.collects_ofSettings settings

end Aggregation

end ScanMerge
