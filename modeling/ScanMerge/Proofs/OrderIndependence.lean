import ScanMerge.Proofs.Deliveries
import ScanMerge.Proofs.PublishedResult

/-!
Workers that register their modules at the same time. Over a disk that does not change, the order in
which they take turns shows only in which module recorded a shared file first and in the order of
the warnings.
-/

set_option autoImplicit false

namespace ScanMerge

/-! ### Taking turns -/

/-- The list takes from lists one element after the other, each time the first of one of them, until
all are empty. -/
inductive Interleaves {α : Type} : List (List α) → List α → Prop
  | done {lists : List (List α)} (empty : ∀ list ∈ lists, list = []) : Interleaves lists []
  | turn {before after : List (List α)} {first : α} {rest merged : List α}
    (later : Interleaves (before ++ rest :: after) merged) :
    Interleaves (before ++ (first :: rest) :: after) (first :: merged)

/-- Elements of different lists have different keys. -/
def Separate {α : Type} (keyOf : α → String) (lists : List (List α)) : Prop :=
  lists.Pairwise fun left right => ∀ first ∈ left, ∀ second ∈ right, keyOf first ≠ keyOf second

section Interleaves

variable {α : Type} {keyOf : α → String}

theorem Separate.rest {before after : List (List α)} {first : α} {rest : List α}
    (separate : Separate keyOf (before ++ (first :: rest) :: after)) :
    Separate keyOf (before ++ rest :: after) := by
  obtain ⟨earlier, later, across⟩ := List.pairwise_append.mp separate
  obtain ⟨own, others⟩ := List.pairwise_cons.mp later
  refine List.pairwise_append.mpr ⟨earlier, List.pairwise_cons.mpr ⟨?_, others⟩, ?_⟩
  · intro list member value inside
    exact own list member value (List.mem_cons_of_mem _ inside)
  · intro list member other otherMember
    rcases List.mem_cons.mp otherMember with rfl | otherMember
    · intro value inside second secondInside
      exact across list member _ List.mem_cons_self value inside second
        (List.mem_cons_of_mem _ secondInside)
    · exact across list member other (List.mem_cons_of_mem _ otherMember)

/-- The elements of a key come in the order of their list. -/
theorem Interleaves.filter_eq {lists : List (List α)} {merged : List α}
    (interleaves : Interleaves lists merged) (separate : Separate keyOf lists) (key : String) :
    (merged.filter fun value => keyOf value = key) =
      lists.flatten.filter fun value => keyOf value = key := by
  induction interleaves with
  | done empty =>
    have none : List.flatten _ = [] := List.flatten_eq_nil_iff.mpr empty
    rw [none]
  | @turn before after first rest merged later ih =>
    have others := ih separate.rest
    rw [List.flatten_append, List.flatten_cons, List.filter_append] at others ⊢
    by_cases own : keyOf first = key
    -- The lists before the one whose turn it is have no element of the key.
    · have absent : (before.flatten.filter fun value => keyOf value = key) = [] := by
        rw [List.filter_eq_nil_iff]
        intro value member
        obtain ⟨list, inside, member⟩ := List.mem_flatten.mp member
        have across := (List.pairwise_append.mp separate).2.2 list inside _ List.mem_cons_self
        have different := across value member first List.mem_cons_self
        rw [own] at different
        simpa using different
      rw [absent, List.nil_append] at others
      rw [absent, List.nil_append, List.filter_cons_of_pos (by simpa using own), others,
        List.cons_append, List.filter_cons_of_pos (by simpa using own)]
    · rw [List.filter_cons_of_neg (by simpa using own), others, List.cons_append,
        List.filter_cons_of_neg (by simpa using own)]

end Interleaves

namespace Session

/-- The session after registrations on one disk. -/
def registeringAll (session : Session) (disk : Disk) (registrations : List Registration) :
    Session :=
  session.registeringEach (registrations.map fun registration => (disk, registration))

section Registering

variable {disk : Disk} (working : disk.working.Proper)

include working

theorem Faithful.registering {session : Session} (faithful : session.Faithful disk)
    (registration : Registration) : (session.registering disk registration).Faithful disk := by
  rw [registering_of_collecting faithful.collecting]
  exact faithful.accept _ fun _ delivered => genuine_of_delivered working delivered

theorem Similar.registering {left right : Session} (similar : left.Similar right)
    (leftFaithful : left.Faithful disk) (rightFaithful : right.Faithful disk)
    (registration : Registration) :
    (left.registering disk registration).Similar (right.registering disk registration) := by
  have same : left.delivery disk registration = right.delivery disk registration := by
    apply delivery_congr
    rw [similar.modules]
  rw [registering_of_collecting leftFaithful.collecting,
    registering_of_collecting rightFaithful.collecting, same]
  exact similar.accept leftFaithful rightFaithful _ fun _ delivered =>
    genuine_of_delivered working delivered

/-- Registrations for different modules can be made in either order. -/
theorem Faithful.registering_comm {session : Session} (faithful : session.Faithful disk)
    {first second : Registration} (different : first.moduleKey ≠ second.moduleKey) :
    ((session.registering disk first).registering disk second).Similar
      ((session.registering disk second).registering disk first) := by
  have firstOwn : ∀ module ∈ (session.delivery disk first).module?,
      module.key = first.moduleKey := fun _ delivered => key_of_delivered delivered
  have secondOwn : ∀ module ∈ (session.delivery disk second).module?,
      module.key = second.moduleKey := fun _ delivered => key_of_delivered delivered
  have afterFirst := faithful.registering working first
  have afterSecond := faithful.registering working second
  rw [registering_of_collecting afterFirst.collecting,
    registering_of_collecting afterSecond.collecting,
    registering_of_collecting faithful.collecting, registering_of_collecting faithful.collecting,
    delivery_accept_of_ne firstOwn different.symm, delivery_accept_of_ne secondOwn different]
  exact faithful.accept_comm different firstOwn secondOwn
    (fun _ delivered => genuine_of_delivered working delivered)
    (fun _ delivered => genuine_of_delivered working delivered)

theorem Similar.registeringAll {left right : Session} (similar : left.Similar right)
    (leftFaithful : left.Faithful disk) (rightFaithful : right.Faithful disk)
    (registrations : List Registration) :
    (left.registeringAll disk registrations).Similar
      (right.registeringAll disk registrations) := by
  induction registrations generalizing left right with
  | nil => exact similar
  | cons first rest ih =>
    exact ih (similar.registering working leftFaithful rightFaithful first)
      (leftFaithful.registering working first) (rightFaithful.registering working first)

theorem Faithful.registeringAll {session : Session} (faithful : session.Faithful disk)
    (registrations : List Registration) :
    (session.registeringAll disk registrations).Faithful disk := by
  induction registrations generalizing session with
  | nil => exact faithful
  | cons first rest ih => exact ih (faithful.registering working first)

/-- A registration can be made before those of other modules. -/
theorem Faithful.registeringAll_move {session : Session} (faithful : session.Faithful disk)
    {before : List Registration} {moved : Registration}
    (others : ∀ other ∈ before, other.moduleKey ≠ moved.moduleKey) (after : List Registration) :
    (session.registeringAll disk (before ++ moved :: after)).Similar
      (session.registeringAll disk (moved :: (before ++ after))) := by
  induction before generalizing session with
  | nil => exact .refl _
  | cons first rest ih =>
    have next := faithful.registering working first
    have moves := ih next fun other member => others other (List.mem_cons_of_mem _ member)
    have swaps := faithful.registering_comm working (others first List.mem_cons_self)
    have movedFirst := faithful.registering working moved
    exact moves.trans (swaps.registeringAll working (next.registering working moved)
      (movedFirst.registering working first) (rest ++ after))

/-- Only the order of the registrations of each module matters. -/
theorem Faithful.registeringAll_similar {session : Session} (faithful : session.Faithful disk)
    {left right : List Registration}
    (same : ∀ key, (left.filter fun registration => registration.moduleKey = key) =
      right.filter fun registration => registration.moduleKey = key) :
    (session.registeringAll disk left).Similar (session.registeringAll disk right) := by
  induction left generalizing session right with
  | nil =>
    cases right with
    | nil => exact .refl _
    | cons other others => simpa using same other.moduleKey
  | cons first rest ih =>
    have own := same first.moduleKey
    rw [List.filter_cons_of_pos (by simp)] at own
    -- In the other list the same registration comes first among those of its module.
    obtain ⟨before, after, rfl, others, -, filtered⟩ := List.filter_eq_cons_iff.mp own.symm
    have notOwn : ∀ other ∈ before, other.moduleKey ≠ first.moduleKey := by
      intro other member
      simpa using others other member
    have restSame : ∀ key, (rest.filter fun registration => registration.moduleKey = key) =
        (before ++ after).filter fun registration => registration.moduleKey = key := by
      intro key
      have all := same key
      rw [List.filter_append] at all ⊢
      by_cases owns : first.moduleKey = key
      · have none : (before.filter fun registration => registration.moduleKey = key) = [] := by
          rw [List.filter_eq_nil_iff, ← owns]
          exact others
        rw [none, List.filter_cons_of_pos (by simpa using owns),
          List.filter_cons_of_pos (by simpa using owns)] at all
        rw [none]
        exact (List.cons.inj all).2
      · rwa [List.filter_cons_of_neg (by simpa using owns),
          List.filter_cons_of_neg (by simpa using owns)] at all
    have straight := ih (faithful.registering working first) restSame
    exact straight.trans (faithful.registeringAll_move working notOwn after).symm

end Registering

end Session

/-! ### Merging -/

theorem FileIndex.Similar.find? {left right : FileIndex} (similar : left.Similar right)
    (path : Path) :
    (left.find? path).map FileRecord.anonymous = (right.find? path).map FileRecord.anonymous := by
  have found : ∀ records : List FileRecord,
      (records.map FileRecord.anonymous).find? (fun record => record.path.same path) =
        (records.find? fun record => record.path.same path).map FileRecord.anonymous := by
    intro records
    rw [List.find?_map]
    rfl
  rw [FileIndex.find?, FileIndex.find?, ← found, ← found, similar.records]

namespace Merge

section Similar

variable {left right : Session} (similar : left.Similar right) (disk : Disk)

include similar

theorem resolve_similar (known : Resolutions) (moduleKey : String) (path : Path) :
    known.resolve left disk moduleKey path = known.resolve right disk moduleKey path := by
  simp only [Resolutions.resolve, Session.resolve?, similar.modules]

theorem resolveAll_similar (known : Resolutions) (paths : List (String × Path)) :
    resolveAll left disk known paths = resolveAll right disk known paths := by
  induction paths generalizing known with
  | nil => rfl
  | cons head rest ih =>
    obtain ⟨moduleKey, path⟩ := head
    simp only [resolveAll, resolve_similar similar, ih]

theorem isKept_similar (generated : List Path) (path : Path) :
    isKept left generated path = isKept right generated path := by
  have found := similar.files.find? path
  rw [isKept, isKept]
  cases leftFound : left.files.find? path with
  | none =>
    rw [leftFound] at found
    rw [Option.map_eq_none_iff.mp found.symm]
  | some record =>
    rw [leftFound] at found
    obtain ⟨other, rightFound, same⟩ := Option.map_eq_some_iff.mp found.symm
    have excluded := congrArg FileRecord.isExcluded same
    rw [FileRecord.isExcluded_anonymous, FileRecord.isExcluded_anonymous] at excluded
    simp only [rightFound, excluded]

theorem located_similar (generated : List Path) (known : Resolutions)
    (reported : List (String × Finding)) :
    located left disk generated known reported = located right disk generated known reported := by
  induction reported generalizing known with
  | nil => rfl
  | cons head rest ih =>
    obtain ⟨moduleKey, finding⟩ := head
    simp only [located, resolve_similar similar, isKept_similar similar, ih]

end Similar

end Merge

/-- The results differ at most in which module recorded a file first, and in the order of the
warnings. No content differed from one before. -/
structure AnalysisResult.Similar (left right : AnalysisResult) : Prop where
  figures : left.figures = right.figures
  findings : left.findings = right.findings
  methodDeclarations : left.methodDeclarations = right.methodDeclarations
  telemetry : left.telemetry = right.telemetry
  summary : left.summary = right.summary
  leftConflicts : left.conflicts = []
  rightConflicts : right.conflicts = []
  files : left.files.map FileRecord.anonymous = right.files.map FileRecord.anonymous
  warnings : (left.warnings.map Warning.anonymous).Perm (right.warnings.map Warning.anonymous)

theorem Merge.resultOf_similar {left right : Session} {disk : Disk} (similar : left.Similar right)
    (leftFaithful : left.files.Faithful disk) (rightFaithful : right.files.Faithful disk)
    (artifactCount : Nat) (imported : List Imported) (skipped : List Warning) :
    (resultOf left disk artifactCount imported skipped).Similar
      (resultOf right disk artifactCount imported skipped) := by
  have recorded := congrArg List.length similar.files.records
  have excluded := congrArg (List.countP FileRecord.isExcluded) similar.files.records
  rw [List.length_map, List.length_map] at recorded
  rw [List.countP_map, List.countP_map] at excluded
  have excludedSame : left.files.records.countP FileRecord.isExcluded =
      right.files.records.countP FileRecord.isExcluded := excluded
  have annotated : annotate left.modules = annotate right.modules := by rw [similar.modules]
  have telemetrySame : telemetry left = telemetry right := by
    funext findings
    rw [telemetry, telemetry, similar.telemetry, similar.documents]
  constructor
  case figures =>
    simp only [resultOf, resolveAll_similar similar, located_similar similar, similar.modules,
      recorded, excludedSame]
  case findings =>
    simp only [resultOf, resolveAll_similar similar, located_similar similar, annotated]
  case methodDeclarations => simp only [resultOf, similar.modules, similar.methods]
  case telemetry =>
    simp only [resultOf, resolveAll_similar similar, located_similar similar, annotated,
      telemetrySame]
  case summary =>
    simp only [resultOf, resolveAll_similar similar, located_similar similar, annotated]
  case leftConflicts => exact leftFaithful.conflicts
  case rightConflicts => exact rightFaithful.conflicts
  case files => exact similar.files.records
  case warnings =>
    simp only [resultOf, List.map_append]
    exact (similar.warnings.append_right _).append_right _

/-- The outcomes are both failures with the same counts, or both results that are similar. -/
inductive Alike :
    Except DrainError AnalysisResult → Except DrainError AnalysisResult → Prop
  | failed {left right : NoValidArtifacts} (registered : left.registered = right.registered)
    (failed : left.failed = right.failed) :
    Alike (.error (.noValidArtifacts left)) (.error (.noValidArtifacts right))
  | published {left right : AnalysisResult} (similar : left.Similar right) :
    Alike (.ok left) (.ok right)

theorem Merge.ofOutcomes_alike {left right : Session} {disk : Disk} (similar : left.Similar right)
    (leftFaithful : left.files.Faithful disk) (rightFaithful : right.files.Faithful disk)
    (outcomes : List Outcome) :
    Alike ((ofOutcomes left disk outcomes).mapError .noValidArtifacts)
      ((ofOutcomes right disk outcomes).mapError .noValidArtifacts) := by
  rw [ofOutcomes, ofOutcomes]
  by_cases none : (outcomes.filterMap Outcome.imported?).isEmpty
  · rw [if_pos none, if_pos none]
    exact .failed rfl rfl
  · rw [if_neg none, if_neg none]
    exact .published (resultOf_similar similar leftFaithful rightFaithful _ _ _)

/-! ### Outcomes -/

/-- A worker registers things for one module. -/
structure Worker where
  moduleKey : String
  registrations : List Registration
  own : ∀ registration ∈ registrations, registration.moduleKey = moduleKey

namespace Aggregation

/-- What comes of registrations over one disk when draining follows. -/
def outcome (settings : Settings) (registry : Registry) (disk : Disk)
    (registrations : List Registration) : Except DrainError AnalysisResult :=
  (start settings registry).outcomeAfter
    (registrations.map fun registration => (disk, registration)) disk

theorem outcome_eq (settings : Settings) (registry : Registry) {disk : Disk} {session : Session}
    {registrations : List Registration}
    (reached : (Session.ofSettings settings).registeringAll disk registrations = session)
    (collecting : session.phase = .collecting) :
    outcome settings registry disk registrations =
      (Merge.ofOutcomes { session with phase := .draining } disk
        (Merge.outcomes registry disk session.artifacts.all)).mapError .noValidArtifacts := by
  have registered : (start settings registry).session.registeringEach
      (registrations.map fun registration => (disk, registration)) = session := reached
  rw [outcome, outcomeAfter, run_register, registered, finish,
    beginDraining_of_collecting collecting]
  simp only [drain]
  rw [drainProgress_of_draining rfl rfl]
  rfl

/-- However workers of different modules take turns, the outcomes are alike. -/
theorem outcome_alike (settings : Settings) (registry : Registry) {disk : Disk}
    (working : disk.working.Proper) {workers : List Worker}
    (different : workers.Pairwise fun left right => left.moduleKey ≠ right.moduleKey)
    {left right : List Registration}
    (leftTurns : Interleaves (workers.map Worker.registrations) left)
    (rightTurns : Interleaves (workers.map Worker.registrations) right) :
    Alike (outcome settings registry disk left) (outcome settings registry disk right) := by
  have separate : Separate Registration.moduleKey (workers.map Worker.registrations) := by
    rw [Separate, List.pairwise_map]
    refine different.imp ?_
    intro one other apart first firstIn second secondIn
    rw [one.own first firstIn, other.own second secondIn]
    exact apart
  have same : ∀ key, (left.filter fun registration => registration.moduleKey = key) =
      right.filter fun registration => registration.moduleKey = key := by
    intro key
    rw [leftTurns.filter_eq separate key, rightTurns.filter_eq separate key]
  have begins := Session.faithful_ofSettings settings disk
  have leftFaithful := begins.registeringAll working left
  have rightFaithful := begins.registeringAll working right
  have similar := begins.registeringAll_similar working same
  have imports : Merge.outcomes registry disk
      ((Session.ofSettings settings).registeringAll disk left).artifacts.all =
        Merge.outcomes registry disk
          ((Session.ofSettings settings).registeringAll disk right).artifacts.all := by
    rw [similar.artifacts]
  rw [outcome_eq settings registry rfl leftFaithful.collecting,
    outcome_eq settings registry rfl rightFaithful.collecting, imports]
  have draining : Session.Similar
      { (Session.ofSettings settings).registeringAll disk left with phase := .draining }
      { (Session.ofSettings settings).registeringAll disk right with phase := .draining } :=
    { similar with phase := rfl }
  exact Merge.ofOutcomes_alike draining leftFaithful.files rightFaithful.files _

/-- A disk with an empty source file and a telemetry report of one event. -/
def sharedDisk : Disk :=
  (Disk.empty.putFile [] [0x73] []).putFile [] [0x74] [0x7B, 0x22, 0x61, 0x22, 0x3A, 0x31, 0x7D]

/-- A worker that registers the source file and the report for its module. -/
def sharingWorker (moduleKey : String) : Worker where
  moduleKey
  registrations :=
    [.module ⟨moduleKey, ⟨[0x2F]⟩, .main⟩, .file moduleKey ⟨[0x73]⟩,
      .artifact moduleKey .telemetryJson ⟨[0x74]⟩]
  own := by simp [Registration.moduleKey]

theorem outcome_alike_shared :
    Alike
      (outcome {} (Registry.standard {}) sharedDisk
        ((sharingWorker "App").registrations ++ (sharingWorker "Web").registrations))
      (outcome {} (Registry.standard {}) sharedDisk
        ((sharingWorker "Web").registrations ++ (sharingWorker "App").registrations)) := by
  have working : sharedDisk.working.Proper := fun _ member => absurd member List.not_mem_nil
  have different : [sharingWorker "App", sharingWorker "Web"].Pairwise
      fun left right => left.moduleKey ≠ right.moduleKey := by
    simp [sharingWorker]
  have empty : ∀ list ∈ ([[], []] : List (List Registration)), list = [] := by simp
  refine outcome_alike {} (Registry.standard {}) working different ?_ ?_
  · exact @Interleaves.turn _ [] _ _ _ _ <| @Interleaves.turn _ [] _ _ _ _ <|
      @Interleaves.turn _ [] _ _ _ _ <| @Interleaves.turn _ [[]] _ _ _ _ <|
        @Interleaves.turn _ [[]] _ _ _ _ <| @Interleaves.turn _ [[]] _ _ _ _ <| .done empty
  · exact @Interleaves.turn _ [_] _ _ _ _ <| @Interleaves.turn _ [_] _ _ _ _ <|
      @Interleaves.turn _ [_] _ _ _ _ <| @Interleaves.turn _ [] _ _ _ _ <|
        @Interleaves.turn _ [] _ _ _ _ <| @Interleaves.turn _ [] _ _ _ _ <| .done empty

end Aggregation

end ScanMerge
