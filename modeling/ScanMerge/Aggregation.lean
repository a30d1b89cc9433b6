import ScanMerge.Merge

/-!
An aggregation leads a session to its result: modules register, draining begins, and draining merges
the artifacts once. The result stays from then on. An aggregation that failed to drain is over, too.
-/

set_option autoImplicit false

namespace ScanMerge

/-- Why draining gave no result. -/
inductive DrainError where
  | refused (error : SessionError)
  | noValidArtifacts (error : NoValidArtifacts)
  deriving DecidableEq, Repr

def DrainError.message : DrainError → String
  | .refused error => error.message
  | .noValidArtifacts error => error.message

structure Drained where
  /-- The artifacts that it imported. -/
  imported : List Artifact
  answer : Except DrainError AnalysisResult

/-- A session with the importers for its artifacts, and its result. -/
structure Aggregation where
  session : Session
  registry : Registry
  result? : Option AnalysisResult

namespace Aggregation

def start (settings : Settings) (registry : Registry) : Aggregation :=
  ⟨.ofSettings settings, registry, none⟩

def withSession (aggregation : Aggregation) (session : Session) : Aggregation :=
  { aggregation with session }

/-- Ends the collecting of registrations. -/
def beginDraining (aggregation : Aggregation) : Except SessionError Aggregation :=
  aggregation.session.beginDraining.map aggregation.withSession

/-- The artifacts that the next draining imports. -/
def pending (aggregation : Aggregation) : List Artifact :=
  match aggregation.result? with
  | some _ => []
  | none => aggregation.session.artifacts.all

/-- Imports and merges the artifacts, and tells of both. A result that is there is given again. -/
def drainProgress (aggregation : Aggregation) (disk : Disk) : Drained × Aggregation :=
  match aggregation.result? with
  | some result => (⟨[], .ok result⟩, aggregation)
  | none =>
    let session := aggregation.session
    if session.phase = .draining then
      let outcomes := Merge.outcomes aggregation.registry disk aggregation.pending
      let imported := outcomes.map Merge.Outcome.artifact
      let finished := aggregation.withSession { session with phase := .finalized }
      match Merge.ofOutcomes session disk outcomes with
      | .ok result => (⟨imported, .ok result⟩, { finished with result? := some result })
      | .error error => (⟨imported, .error (.noValidArtifacts error)⟩, finished)
    else
      (⟨[], .error (.refused (.lifecycle .drain session.phase))⟩, aggregation)

/-- Imports and merges the artifacts, and gives the result. -/
def drain (aggregation : Aggregation) (disk : Disk) :
    Except DrainError AnalysisResult × Aggregation :=
  let (drained, aggregation) := aggregation.drainProgress disk
  (drained.answer, aggregation)

/-- Ends the collecting of registrations and drains. -/
def finish (aggregation : Aggregation) (disk : Disk) :
    Except DrainError AnalysisResult × Aggregation :=
  match aggregation.beginDraining with
  | .error error => (.error (.refused error), aggregation)
  | .ok aggregation => aggregation.drain disk

end Aggregation

end ScanMerge
