import ScanMerge.Proofs.Registration

/-!
The life of an aggregation over any sequence of calls. The phase goes from collecting to draining
to finalized and never back, refused registrations change nothing, artifacts are imported by one
draining at most, and what that draining published, or that it failed, is final.
-/

set_option autoImplicit false

namespace ScanMerge

/-- The phases that may follow a phase. -/
inductive Phase.Moves : Phase → Phase → Prop
  | stays (phase : Phase) : Moves phase phase
  | begins : Moves .collecting .draining
  | ends : Moves .draining .finalized

/-- The place of a phase in the order of phases. -/
def Phase.rank : Phase → Nat
  | .collecting => 0
  | .draining => 1
  | .finalized => 2

theorem Phase.Moves.rank_le {before after : Phase} (moves : before.Moves after) :
    before.rank ≤ after.rank := by
  cases moves with
  | stays => exact Nat.le_refl _
  | begins => decide
  | ends => decide

namespace Step

/-- The step registered something, and was refused. -/
def IsRefused (step : Step) : Prop :=
  ∃ error, step.answer = .registered (.error error)

/-- The step ended the collecting of registrations. -/
def Begins (step : Step) : Prop :=
  step.answer = .begun (.ok ())

def imported (step : Step) : List Artifact :=
  match step.answer with
  | .drained drained => drained.imported
  | _ => []

end Step

/-- The rules that hold for the steps of every history. -/
structure Lawful (history : List Step) : Prop where
  /-- The phase stays or moves on by one. -/
  phase : ∀ step ∈ history, step.before.session.phase.Moves step.after.session.phase
  forward : history.Pairwise fun earlier later =>
    earlier.after.session.phase.rank ≤ later.before.session.phase.rank
  beginsOnce : history.Pairwise fun earlier later => earlier.Begins → ¬ later.Begins
  refused : ∀ step ∈ history, step.IsRefused → step.after = step.before
  /-- A registration is refused for the phase, or else for its module. -/
  refusal : ∀ step ∈ history, ∀ registration error, step.call = .register registration →
    step.answer = .registered (.error error) →
    (step.before.session.phase ≠ .collecting ∧
      error = .lifecycle registration.operation step.before.session.phase) ∨
    (step.before.session.phase = .collecting ∧
      step.before.session.modules.get? registration.moduleKey = none ∧
      error = .unknownModule registration.moduleKey)
  /-- After collecting, every registration is refused for the phase, whatever its module. -/
  closed : ∀ step ∈ history, ∀ registration, step.call = .register registration →
    step.before.session.phase ≠ .collecting →
    step.answer = .registered
      (.error (.lifecycle registration.operation step.before.session.phase))
  frozen : ∀ step ∈ history, step.before.session.phase ≠ .collecting →
    step.after.session.collected = step.before.session.collected
  frozenLater : history.Pairwise fun earlier later => earlier.after.session.phase ≠ .collecting →
    later.after.session.collected = earlier.after.session.collected
  /-- A draining that imports takes all artifacts. -/
  imports : ∀ step ∈ history, step.imported = [] ∨
    step.imported = step.before.session.artifacts.all
  importsOnce : history.Pairwise fun earlier later => earlier.imported = [] ∨ later.imported = []
  result : ∀ step ∈ history, ∀ result, step.answer = .result (some result) →
    step.before.session.phase = .finalized
  /-- A result is given again by every draining after it. -/
  published : history.Pairwise fun earlier later => ∀ imported result,
    earlier.answer = .drained ⟨imported, .ok result⟩ → later.call = .drain →
    later.answer = .drained ⟨[], .ok result⟩
  /-- A merge that failed is not tried again. -/
  failed : history.Pairwise fun earlier later => ∀ imported error,
    earlier.answer = .drained ⟨imported, .error (.noValidArtifacts error)⟩ → later.call = .drain →
    later.answer = .drained ⟨[], .error (.refused (.lifecycle .drain .finalized))⟩

namespace Aggregation

/-- A result is there only in the end. -/
def Coherent (aggregation : Aggregation) : Prop :=
  ∀ result, aggregation.result? = some result → aggregation.session.phase = .finalized

theorem coherent_start (settings : Settings) (registry : Registry) :
    (start settings registry).Coherent := by
  intro result present
  cases present

/-- What is kept from one moment of an aggregation to a later one. -/
structure Onward (earlier later : Aggregation) : Prop where
  rank_le : earlier.session.phase.rank ≤ later.session.phase.rank
  frozen : earlier.session.phase ≠ .collecting →
    later.session.collected = earlier.session.collected
  final : earlier.session.phase = .finalized → later = earlier

theorem Onward.refl (aggregation : Aggregation) : Onward aggregation aggregation :=
  ⟨Nat.le_refl _, fun _ => rfl, fun _ => rfl⟩

theorem Onward.left {earlier later : Aggregation} (onward : Onward earlier later)
    (left : earlier.session.phase ≠ .collecting) : later.session.phase ≠ .collecting := by
  intro collecting
  have rank := onward.rank_le
  rw [collecting] at rank
  cases phase : earlier.session.phase with
  | collecting => exact left phase
  | draining => simp [phase, Phase.rank] at rank
  | finalized => simp [phase, Phase.rank] at rank

theorem Onward.trans {first second third : Aggregation} (before : Onward first second)
    (after : Onward second third) : Onward first third where
  rank_le := Nat.le_trans before.rank_le after.rank_le
  frozen left := (after.frozen (before.left left)).trans (before.frozen left)
  final finalized := by
    have same := before.final finalized
    subst same
    exact after.final finalized

/-- What merging gives now. -/
def merged (aggregation : Aggregation) (disk : Disk) : Except NoValidArtifacts AnalysisResult :=
  Merge.ofOutcomes aggregation.session disk
    (Merge.outcomes aggregation.registry disk aggregation.session.artifacts.all)

theorem beginDraining_of_collecting {aggregation : Aggregation}
    (collecting : aggregation.session.phase = .collecting) :
    aggregation.beginDraining =
      .ok (aggregation.withSession { aggregation.session with phase := .draining }) := by
  simp only [beginDraining, Session.beginDraining, Session.checkCollecting_of_collecting collecting]
  rfl

theorem beginDraining_of_left {aggregation : Aggregation}
    (left : aggregation.session.phase ≠ .collecting) :
    aggregation.beginDraining =
      .error (.lifecycle .beginDraining aggregation.session.phase) := by
  simp only [beginDraining, Session.beginDraining, Session.checkCollecting_of_left left]
  rfl

theorem drainProgress_of_result {aggregation : Aggregation} {result : AnalysisResult}
    (present : aggregation.result? = some result) (disk : Disk) :
    aggregation.drainProgress disk = (⟨[], .ok result⟩, aggregation) := by
  simp only [drainProgress, present]

theorem drainProgress_of_refused {aggregation : Aggregation} (absent : aggregation.result? = none)
    (refused : aggregation.session.phase ≠ .draining) (disk : Disk) :
    aggregation.drainProgress disk =
      (⟨[], .error (.refused (.lifecycle .drain aggregation.session.phase))⟩, aggregation) := by
  simp only [drainProgress, absent, refused, ↓reduceIte]

theorem drainProgress_of_draining {aggregation : Aggregation} (absent : aggregation.result? = none)
    (draining : aggregation.session.phase = .draining) (disk : Disk) :
    aggregation.drainProgress disk =
      (⟨aggregation.session.artifacts.all,
          (aggregation.merged disk).mapError .noValidArtifacts⟩,
        { aggregation with
          session := { aggregation.session with phase := .finalized }
          result? := (aggregation.merged disk).toOption }) := by
  have artifacts : (Merge.outcomes aggregation.registry disk
      aggregation.session.artifacts.all).map Merge.Outcome.artifact =
        aggregation.session.artifacts.all := by
    simp [Merge.outcomes, Function.comp_def]
  simp only [drainProgress, pending, absent, draining, ↓reduceIte, artifacts]
  cases merged : aggregation.merged disk with
  | ok result =>
    rw [Aggregation.merged] at merged
    simp only [merged]
    rfl
  | error error =>
    rw [Aggregation.merged] at merged
    simp only [merged, withSession, absent]
    rfl

/-- What a call makes of an aggregation. -/
inductive Becomes (aggregation : Aggregation) : Call → Aggregation → Prop
  | unchanged (call : Call) : Becomes aggregation call aggregation
  | registered {registration : Registration} (session : Session)
    (collecting : aggregation.session.phase = .collecting) (still : session.phase = .collecting) :
    Becomes aggregation (.register registration) (aggregation.withSession session)
  | begun (collecting : aggregation.session.phase = .collecting) :
    Becomes aggregation .beginDraining
      (aggregation.withSession { aggregation.session with phase := .draining })
  | drained (draining : aggregation.session.phase = .draining) (result? : Option AnalysisResult) :
    Becomes aggregation .drain
      { aggregation with
        session := { aggregation.session with phase := .finalized }
        result? }

theorem perform_register (aggregation : Aggregation) (disk : Disk) (registration : Registration) :
    (aggregation.perform disk (.register registration)).2 =
      aggregation.withSession (aggregation.session.registering disk registration) := by
  simp only [perform, Session.registering]
  cases aggregation.session.register disk registration with
  | ok outcome => rfl
  | error error => rfl

theorem perform_becomes (aggregation : Aggregation) (disk : Disk) (call : Call) :
    aggregation.Becomes call (aggregation.perform disk call).2 := by
  cases call with
  | register registration =>
    rw [perform_register]
    by_cases collecting : aggregation.session.phase = .collecting
    · apply Becomes.registered _ collecting
      rw [Session.phase_registering, collecting]
    · rw [Session.registering_of_left collecting]
      exact .unchanged _
  | beginDraining =>
    by_cases collecting : aggregation.session.phase = .collecting
    · simp only [perform, beginDraining_of_collecting collecting]
      exact .begun collecting
    · simp only [perform, beginDraining_of_left collecting]
      exact .unchanged _
  | drain =>
    simp only [perform]
    cases present : aggregation.result? with
    | some result =>
      rw [drainProgress_of_result present]
      exact .unchanged _
    | none =>
      by_cases draining : aggregation.session.phase = .draining
      · rw [drainProgress_of_draining present draining]
        exact .drained draining _
      · rw [drainProgress_of_refused present draining]
        exact .unchanged _
  | result => exact .unchanged _
  | phase => exact .unchanged _

theorem Becomes.moves {aggregation after : Aggregation} {call : Call}
    (becomes : aggregation.Becomes call after) :
    aggregation.session.phase.Moves after.session.phase := by
  cases becomes with
  | unchanged => exact .stays _
  | registered session collecting still =>
    rw [collecting]
    change Phase.Moves .collecting session.phase
    rw [still]
    exact .stays _
  | begun collecting =>
    rw [collecting]
    exact .begins
  | drained draining =>
    rw [draining]
    exact .ends

theorem Becomes.coherent {aggregation after : Aggregation} {call : Call}
    (becomes : aggregation.Becomes call after) (coherent : aggregation.Coherent) :
    after.Coherent := by
  intro result present
  cases becomes with
  | unchanged => exact coherent result present
  | registered session collecting still =>
    have finalized := coherent result present
    rw [collecting] at finalized
    cases finalized
  | begun collecting =>
    have finalized := coherent result present
    rw [collecting] at finalized
    cases finalized
  | drained => rfl

theorem Becomes.onward {aggregation after : Aggregation} {call : Call}
    (becomes : aggregation.Becomes call after) : Onward aggregation after := by
  refine ⟨becomes.moves.rank_le, ?_, ?_⟩
  · intro left
    cases becomes with
    | unchanged => rfl
    | registered session collecting still => exact absurd collecting left
    | begun collecting => exact absurd collecting left
    | drained => rfl
  · intro finalized
    cases becomes with
    | unchanged => rfl
    | registered session collecting still =>
      rw [collecting] at finalized
      cases finalized
    | begun collecting =>
      rw [collecting] at finalized
      cases finalized
    | drained draining =>
      rw [draining] at finalized
      cases finalized

end Aggregation

/-- The answers that a call can have. -/
inductive Answer.For : Call → Answer → Prop
  | registered (registration : Registration) (answer : Except SessionError Registration.Answer) :
    For (.register registration) (.registered answer)
  | begun (answer : Except SessionError Unit) : For .beginDraining (.begun answer)
  | drained (drained : Drained) : For .drain (.drained drained)
  | result (result? : Option AnalysisResult) : For .result (.result result?)
  | phase (phase : Phase) : For .phase (.phase phase)

theorem Aggregation.perform_answers (aggregation : Aggregation) (disk : Disk) (call : Call) :
    (aggregation.perform disk call).1.For call := by
  cases call with
  | register registration =>
    rw [perform]
    split <;> exact .registered registration _
  | beginDraining =>
    rw [perform]
    split <;> exact .begun _
  | drain => exact .drained _
  | result => exact .result _
  | phase => exact .phase _

namespace Step

/-- The step is what its call does to a coherent aggregation. -/
structure Genuine (step : Step) : Prop where
  coherent : step.before.Coherent
  performed : step.before.perform step.disk step.call = (step.answer, step.after)

variable {step : Step} (genuine : step.Genuine)

include genuine

theorem Genuine.becomes : step.before.Becomes step.call step.after := by
  have becomes := step.before.perform_becomes step.disk step.call
  rwa [genuine.performed] at becomes

theorem Genuine.answers : step.answer.For step.call := by
  have answers := step.before.perform_answers step.disk step.call
  rwa [genuine.performed] at answers

theorem Genuine.call_of_registered {given : Except SessionError Registration.Answer}
    (answer : step.answer = .registered given) :
    ∃ registration, step.call = .register registration := by
  have answers := genuine.answers
  rw [answer] at answers
  generalize step.call = call at answers
  cases answers with
  | registered registration => exact ⟨registration, rfl⟩

theorem Genuine.call_of_begun {given : Except SessionError Unit}
    (answer : step.answer = .begun given) : step.call = .beginDraining := by
  have answers := genuine.answers
  rw [answer] at answers
  generalize step.call = call at answers
  cases answers with
  | begun => rfl

theorem Genuine.call_of_drained {drained : Drained} (answer : step.answer = .drained drained) :
    step.call = .drain := by
  have answers := genuine.answers
  rw [answer] at answers
  generalize step.call = call at answers
  cases answers with
  | drained => rfl

theorem Genuine.call_of_result {result? : Option AnalysisResult}
    (answer : step.answer = .result result?) : step.call = .result := by
  have answers := genuine.answers
  rw [answer] at answers
  generalize step.call = call at answers
  cases answers with
  | result => rfl

theorem Genuine.unchanged_of_refused (refused : step.IsRefused) : step.after = step.before := by
  obtain ⟨error, answer⟩ := refused
  obtain ⟨registration, call⟩ := genuine.call_of_registered answer
  have performed := genuine.performed
  simp only [call, answer, Aggregation.perform] at performed
  split at performed
  · cases performed
  · exact (Prod.mk.inj performed).2.symm

theorem Genuine.refusal {registration : Registration} {error : SessionError}
    (call : step.call = .register registration)
    (answer : step.answer = .registered (.error error)) :
    (step.before.session.phase ≠ .collecting ∧
      error = .lifecycle registration.operation step.before.session.phase) ∨
    (step.before.session.phase = .collecting ∧
      step.before.session.modules.get? registration.moduleKey = none ∧
      error = .unknownModule registration.moduleKey) := by
  have performed := genuine.performed
  simp only [call, answer, Aggregation.perform] at performed
  split at performed
  · cases performed
  · next refused =>
    obtain ⟨same, -⟩ := Prod.mk.inj performed
    cases same
    exact Session.register_eq_error refused

theorem Genuine.refused_of_left {registration : Registration}
    (call : step.call = .register registration)
    (left : step.before.session.phase ≠ .collecting) :
    step.answer = .registered
      (.error (.lifecycle registration.operation step.before.session.phase)) := by
  have performed := genuine.performed
  simp only [call, Aggregation.perform, Session.register_of_left left] at performed
  exact (Prod.mk.inj performed).1.symm

theorem Genuine.begins (begins : step.Begins) :
    step.before.session.phase = .collecting ∧ step.after.session.phase = .draining := by
  have performed := genuine.performed
  rw [begins, genuine.call_of_begun begins] at performed
  by_cases collecting : step.before.session.phase = .collecting
  · simp only [Aggregation.perform, Aggregation.beginDraining_of_collecting collecting] at performed
    rw [← (Prod.mk.inj performed).2]
    exact ⟨collecting, rfl⟩
  · simp [Aggregation.perform, Aggregation.beginDraining_of_left collecting] at performed

theorem Genuine.result {result : AnalysisResult} (answer : step.answer = .result (some result)) :
    step.before.session.phase = .finalized := by
  have performed := genuine.performed
  rw [answer, genuine.call_of_result answer] at performed
  simp only [Aggregation.perform, Prod.mk.injEq, Answer.result.injEq] at performed
  exact genuine.coherent result performed.1

/-- The ways in which a draining can go: there is a result, draining is not due, or it is. -/
theorem Genuine.drain (call : step.call = .drain) :
    (∃ result, step.before.result? = some result ∧ step.answer = .drained ⟨[], .ok result⟩ ∧
      step.after = step.before) ∨
    (step.before.result? = none ∧ step.before.session.phase ≠ .draining ∧
      step.answer = .drained
        ⟨[], .error (.refused (.lifecycle .drain step.before.session.phase))⟩ ∧
      step.after = step.before) ∨
    (step.before.session.phase = .draining ∧
      step.answer = .drained ⟨step.before.session.artifacts.all,
        (step.before.merged step.disk).mapError .noValidArtifacts⟩ ∧
      step.after.session.phase = .finalized ∧
      step.after.result? = (step.before.merged step.disk).toOption) := by
  have performed := genuine.performed
  simp only [call, Aggregation.perform] at performed
  obtain ⟨answer, after⟩ := Prod.mk.inj performed
  rw [← answer, ← after]
  cases present : step.before.result? with
  | some result =>
    rw [Aggregation.drainProgress_of_result present]
    exact .inl ⟨result, rfl, rfl, rfl⟩
  | none =>
    by_cases draining : step.before.session.phase = .draining
    · rw [Aggregation.drainProgress_of_draining present draining]
      exact .inr (.inr ⟨draining, rfl, rfl, rfl⟩)
    · rw [Aggregation.drainProgress_of_refused present draining]
      exact .inr (.inl ⟨rfl, draining, rfl, rfl⟩)

theorem Genuine.imported (imports : step.imported ≠ []) :
    step.imported = step.before.session.artifacts.all ∧
      step.before.session.phase = .draining ∧ step.after.session.phase = .finalized := by
  cases answer : step.answer with
  | drained drained =>
    rcases genuine.drain (genuine.call_of_drained answer) with
      ⟨result, -, given, -⟩ | ⟨-, -, given, -⟩ | ⟨draining, given, finalized, -⟩
    · exact absurd (by rw [Step.imported, given]) imports
    · exact absurd (by rw [Step.imported, given]) imports
    · exact ⟨by rw [Step.imported, given], draining, finalized⟩
  | _ => exact absurd (by rw [Step.imported, answer]) imports

theorem Genuine.published {imported : List Artifact} {result : AnalysisResult}
    (answer : step.answer = .drained ⟨imported, .ok result⟩) :
    step.after.session.phase = .finalized ∧ step.after.result? = some result := by
  rcases genuine.drain (genuine.call_of_drained answer) with
    ⟨present, there, given, same⟩ | ⟨-, -, given, -⟩ | ⟨-, given, finalized, stored⟩
  · rw [answer] at given
    cases given
    rw [same]
    exact ⟨genuine.coherent result there, there⟩
  · rw [answer] at given
    cases given
  · rw [answer] at given
    refine ⟨finalized, ?_⟩
    cases merged : step.before.merged step.disk with
    | ok published =>
      rw [merged] at given stored
      cases given
      exact stored
    | error error =>
      rw [merged] at given
      cases given

theorem Genuine.failed {imported : List Artifact} {error : NoValidArtifacts}
    (answer : step.answer = .drained ⟨imported, .error (.noValidArtifacts error)⟩) :
    step.after.session.phase = .finalized ∧ step.after.result? = none := by
  rcases genuine.drain (genuine.call_of_drained answer) with
    ⟨present, there, given, same⟩ | ⟨-, -, given, -⟩ | ⟨-, given, finalized, stored⟩
  · rw [answer] at given
    cases given
  · rw [answer] at given
    cases given
  · rw [answer] at given
    refine ⟨finalized, ?_⟩
    cases merged : step.before.merged step.disk with
    | ok published =>
      rw [merged] at given
      cases given
    | error error =>
      rw [merged] at stored
      exact stored

end Step

namespace Aggregation

theorem coherent_run {aggregation : Aggregation} (coherent : aggregation.Coherent)
    (calls : List (Disk × Call)) : (aggregation.run calls).Coherent := by
  induction calls generalizing aggregation with
  | nil => exact coherent
  | cons head rest ih => exact ih ((aggregation.perform_becomes head.1 head.2).coherent coherent)

/-- A run keeps what registrations keep, if the phase does not matter for it. -/
theorem run_keeps {P : Session → Prop}
    (anyPhase : ∀ session phase, P session → P { session with phase })
    (registering : ∀ session disk registration, P session →
      P (session.registering disk registration))
    {aggregation : Aggregation} (holds : P aggregation.session) (calls : List (Disk × Call)) :
    P (aggregation.run calls).session := by
  induction calls generalizing aggregation with
  | nil => exact holds
  | cons head rest ih =>
    obtain ⟨disk, call⟩ := head
    apply ih
    have becomes := aggregation.perform_becomes disk call
    cases call with
    | register registration =>
      rw [perform_register]
      exact registering _ disk registration holds
    | beginDraining | drain | result | phase =>
      generalize (aggregation.perform disk _).2 = after at becomes ⊢
      cases becomes with
      | unchanged => exact holds
      | _ => exact anyPhase _ _ holds

theorem run_append (aggregation : Aggregation) (calls later : List (Disk × Call)) :
    aggregation.run (calls ++ later) = (aggregation.run calls).run later := by
  induction calls generalizing aggregation with
  | nil => rfl
  | cons head rest ih => exact ih (aggregation.perform head.1 head.2).2

/-- Some calls lead to the aggregation. -/
def Reached (aggregation : Aggregation) : Prop :=
  ∃ settings registry calls, aggregation = (start settings registry).run calls

theorem Reached.coherent {aggregation : Aggregation} (reached : aggregation.Reached) :
    aggregation.Coherent := by
  obtain ⟨settings, registry, calls, rfl⟩ := reached
  exact coherent_run (coherent_start settings registry) calls

/-- While draining is due there is no result. -/
theorem Coherent.result_none {aggregation : Aggregation} (coherent : aggregation.Coherent)
    (draining : aggregation.session.phase = .draining) : aggregation.result? = none := by
  cases present : aggregation.result? with
  | none => rfl
  | some result =>
    have finalized := coherent result present
    rw [draining] at finalized
    cases finalized

theorem drain_of_draining {aggregation : Aggregation} (coherent : aggregation.Coherent)
    (draining : aggregation.session.phase = .draining) (disk : Disk) :
    (aggregation.drain disk).1 = (aggregation.merged disk).mapError .noValidArtifacts := by
  rw [drain, drainProgress_of_draining (coherent.result_none draining) draining]

theorem history_genuine {aggregation : Aggregation} (coherent : aggregation.Coherent)
    (calls : List (Disk × Call)) : ∀ step ∈ aggregation.history calls,
      step.Genuine ∧ Onward aggregation step.before := by
  induction calls generalizing aggregation with
  | nil =>
    intro step member
    cases member
  | cons head rest ih =>
    obtain ⟨disk, call⟩ := head
    have becomes := aggregation.perform_becomes disk call
    intro step member
    rcases List.mem_cons.mp member with rfl | member
    · exact ⟨⟨coherent, rfl⟩, .refl _⟩
    · obtain ⟨genuine, onward⟩ := ih (becomes.coherent coherent) step member
      exact ⟨genuine, becomes.onward.trans onward⟩

/-- What is read off a history with one more step. -/
theorem filterMap_snoc {β : Type} (read : Step → Option β) (past : List Step) (step : Step) :
    (past ++ [step]).filterMap read = past.filterMap read ++ (read step).toList := by
  rw [List.filterMap_append, List.filterMap_cons, List.filterMap_nil]
  cases read step <;> rfl

/-- A history keeps what each of its steps keeps, given the steps before it. -/
theorem history_keeps {P : List Step → Aggregation → Prop}
    (next : ∀ past step, step.Genuine → P past step.before → P (past ++ [step]) step.after)
    {aggregation : Aggregation} (coherent : aggregation.Coherent) (past : List Step)
    (holds : P past aggregation) (calls : List (Disk × Call)) :
    P (past ++ aggregation.history calls) (aggregation.run calls) := by
  induction calls generalizing aggregation past with
  | nil => simpa [history, run] using holds
  | cons head rest ih =>
    obtain ⟨disk, call⟩ := head
    have becomes := aggregation.perform_becomes disk call
    have first := next past ⟨aggregation, disk, call, (aggregation.perform disk call).1,
      (aggregation.perform disk call).2⟩ ⟨coherent, rfl⟩ holds
    have later := ih (becomes.coherent coherent) _ first
    rwa [List.append_assoc, List.singleton_append] at later

theorem history_pairwise {R : Step → Step → Prop}
    (related : ∀ earlier later : Step, earlier.Genuine → later.Genuine →
      Onward earlier.after later.before → R earlier later)
    {aggregation : Aggregation} (coherent : aggregation.Coherent) (calls : List (Disk × Call)) :
    (aggregation.history calls).Pairwise R := by
  induction calls generalizing aggregation with
  | nil => exact .nil
  | cons head rest ih =>
    obtain ⟨disk, call⟩ := head
    have next := (aggregation.perform_becomes disk call).coherent coherent
    refine List.pairwise_cons.mpr ⟨?_, ih next⟩
    intro later member
    obtain ⟨genuine, onward⟩ := history_genuine next rest later member
    exact related _ later ⟨coherent, rfl⟩ genuine onward

/-- Every sequence of calls keeps the rules, however the disk changes between them. -/
theorem history_lawful (settings : Settings) (registry : Registry) (calls : List (Disk × Call)) :
    (start settings registry).session.phase = .collecting ∧
      Lawful ((start settings registry).history calls) := by
  have coherent := coherent_start settings registry
  have genuine := fun step member => (history_genuine coherent calls step member).1
  refine ⟨rfl, ?_⟩
  constructor
  case phase => exact fun step member => (genuine step member).becomes.moves
  case forward =>
    refine history_pairwise ?_ coherent calls
    intro earlier later first second onward
    exact onward.rank_le
  case beginsOnce =>
    refine history_pairwise ?_ coherent calls
    intro earlier later first second onward begins again
    have draining := (first.begins begins).2
    have left := onward.left (by simp [draining])
    exact left (second.begins again).1
  case refused => exact fun step member => (genuine step member).unchanged_of_refused
  case refusal =>
    intro step member registration error call answer
    exact (genuine step member).refusal call answer
  case closed =>
    intro step member registration call left
    exact (genuine step member).refused_of_left call left
  case frozen => exact fun step member => (genuine step member).becomes.onward.frozen
  case frozenLater =>
    refine history_pairwise ?_ coherent calls
    intro earlier later first second onward
    exact (onward.trans second.becomes.onward).frozen
  case imports =>
    intro step member
    by_cases none : step.imported = []
    · exact .inl none
    · exact .inr ((genuine step member).imported none).1
  case importsOnce =>
    refine history_pairwise ?_ coherent calls
    intro earlier later first second onward
    by_cases none : earlier.imported = []
    · exact .inl none
    · by_cases again : later.imported = []
      · exact .inr again
      · have finalized := (first.imported none).2.2
        have draining := (second.imported again).2.1
        rw [onward.final finalized, finalized] at draining
        cases draining
  case result => exact fun step member result answer => (genuine step member).result answer
  case published =>
    refine history_pairwise ?_ coherent calls
    intro earlier later first second onward imported result answer call
    obtain ⟨finalized, there⟩ := first.published answer
    have performed := second.performed
    rw [onward.final finalized, call] at performed
    simp only [perform, drainProgress_of_result there] at performed
    exact (Prod.mk.inj performed).1.symm
  case failed =>
    refine history_pairwise ?_ coherent calls
    intro earlier later first second onward imported error answer call
    obtain ⟨finalized, absent⟩ := first.failed answer
    have refused : earlier.after.session.phase ≠ .draining := by simp [finalized]
    have performed := second.performed
    rw [onward.final finalized, call] at performed
    simp only [perform, drainProgress_of_refused absent refused, finalized] at performed
    exact (Prod.mk.inj performed).1.symm

end Aggregation

/-- A step keeps what registrations keep, if the phase does not matter for it. -/
theorem Step.Genuine.keeps {P : Session → Prop}
    (anyPhase : ∀ session phase, P session → P { session with phase })
    (registering : ∀ session disk registration, P session →
      P (session.registering disk registration))
    {step : Step} (genuine : step.Genuine) (holds : P step.before.session) :
    P step.after.session := by
  have kept := Aggregation.run_keeps anyPhase registering holds [(step.disk, step.call)]
  rwa [Aggregation.run, Aggregation.run, genuine.performed] at kept

end ScanMerge
