import Mathlib.Data.List.Induction
import ScanMerge.File.HashIndex

/-!
Digests that are recorded one after the other. Every answer is that of the earliest recording of its
path, however the path was spelled then, and two paths differ when their earliest digests do.
-/

set_option autoImplicit false

namespace ScanMerge

/-- What is made of each member of a list and the members before it, when one more follows. -/
theorem mapIdx_take_append_singleton {α β : Type} (value : α → List α → β) (list : List α)
    (last : α) :
    ((list ++ [last]).mapIdx fun place member => value member ((list ++ [last]).take place)) =
      (list.mapIdx fun place member => value member (list.take place)) ++ [value last list] := by
  have before : (list.mapIdx fun place member => value member ((list ++ [last]).take place)) =
      list.mapIdx fun place member => value member (list.take place) := by
    rw [List.mapIdx_eq_mapIdx_iff]
    intro place inside
    rw [List.take_append_of_le_length (Nat.le_of_lt inside)]
  rw [List.mapIdx_concat, before, List.take_left]

/-- The conflict that an answer tells of. -/
def Recorded.conflict? : Recorded → Option Conflict
  | .new _ => none
  | .duplicate _ => none
  | .conflict found => some found

namespace HashIndex

/-- A call that records something for a path: a content, or a digest. -/
inductive Recording where
  | content (path : Path) (moduleKey : String) (content : List UInt8)
  | digest (path : Path) (moduleKey hash : String)

namespace Recording

def path : Recording → Path
  | .content path _ _ => path
  | .digest path _ _ => path

def moduleKey : Recording → String
  | .content _ moduleKey _ => moduleKey
  | .digest _ moduleKey _ => moduleKey

/-- The digest that is recorded, that of the content if it is one. -/
def hash : Recording → String
  | .content _ _ bytes => ScanMerge.digest bytes
  | .digest _ _ recorded => recorded

/-- The earliest call for a path, whatever its spelling. -/
def earliest? (calls : List Recording) (path : Path) : Option Recording :=
  calls.find? (·.path.same path)

/-- What is kept of a call when it is the earliest one for its path. -/
def entry (call : Recording) : Entry :=
  ⟨call.path, call.moduleKey, call.hash⟩

/-- The conflict of a call with the earliest one for its path, which is kept. -/
def conflict (first later : Recording) : Conflict :=
  { path := later.path
    keptModule := first.moduleKey
    keptHash := first.hash
    rejectedModule := later.moduleKey
    rejectedHash := later.hash }

/-- The answer to a call that comes after others. -/
def answer (call : Recording) (before : List Recording) : Recorded :=
  match earliest? before call.path with
  | none => .new call.hash
  | some first =>
    if first.hash = call.hash then .duplicate call.hash
    else .conflict (first.conflict call)

theorem earliest?_append (calls later : List Recording) (path : Path) :
    earliest? (calls ++ later) path = (earliest? calls path).or (earliest? later path) :=
  List.find?_append

theorem earliest?_singleton (call : Recording) (path : Path) :
    earliest? [call] path = if call.path.same path then some call else none := by
  rw [earliest?]
  cases own : call.path.same path <;> simp [own]

theorem earliest?_of_same (calls : List Recording) {left right : Path}
    (same : left.same right = true) : earliest? calls left = earliest? calls right := by
  simp only [earliest?, Path.same, Path.same_iff.mp same]

end Recording

def perform (index : HashIndex) : Recording → Recorded × HashIndex
  | .content path moduleKey content => index.record path moduleKey content
  | .digest path moduleKey hash => index.recordDigest path moduleKey hash

/-- Carries out calls and gives the answers to them. -/
def performAll (index : HashIndex) : List Recording → List Recorded × HashIndex
  | [] => ([], index)
  | call :: rest =>
    let (answer, next) := index.perform call
    let (answers, last) := next.performAll rest
    (answer :: answers, last)

theorem perform_eq (index : HashIndex) (call : Recording) :
    index.perform call = index.recordDigest call.path call.moduleKey call.hash := by
  cases call <;> rfl

theorem performAll_append_singleton (index : HashIndex) (calls : List Recording)
    (last : Recording) :
    index.performAll (calls ++ [last]) =
      let before := index.performAll calls
      let next := before.2.perform last
      (before.1 ++ [next.1], next.2) := by
  induction calls generalizing index with
  | nil => rfl
  | cons first rest ih => simp only [List.cons_append, performAll, ih]

/-! ### What is kept -/

/-- The index keeps the earliest call for every path. -/
def Keeps (index : HashIndex) (calls : List Recording) : Prop :=
  ∀ path, index.find? path = (Recording.earliest? calls path).map Recording.entry

section Keeps

variable {index : HashIndex} {calls : List Recording} (keeps : index.Keeps calls)

include keeps

/-- A call for a path that had one before changes nothing that is kept. -/
theorem Keeps.append_again {call first : Recording}
    (found : Recording.earliest? calls call.path = some first) (conflicts : List Conflict) :
    HashIndex.Keeps { index with conflicts } (calls ++ [call]) := by
  intro path
  refine (keeps path).trans (congrArg (Option.map Recording.entry) ?_)
  rw [Recording.earliest?_append, Recording.earliest?_singleton]
  cases own : call.path.same path with
  | false => simp
  | true =>
    rw [← Recording.earliest?_of_same calls own, found]
    rfl

/-- What a call leaves behind the entries of others is found when there was none for its path. -/
theorem Keeps.append_new (call : Recording) :
    HashIndex.Keeps { index with entries := index.entries ++ [call.entry] } (calls ++ [call]) := by
  intro path
  have appended : HashIndex.find? { index with entries := index.entries ++ [call.entry] } path =
      (index.find? path).or (if call.path.same path then some call.entry else none) := by
    rw [find?, find?, List.find?_append]
    congr 1
    cases own : call.path.same path <;> simp [own, Recording.entry]
  rw [appended, keeps path, Recording.earliest?_append, Recording.earliest?_singleton]
  cases Recording.earliest? calls path with
  | some first => rfl
  | none => cases call.path.same path <;> rfl

/-- One more call: its answer, what is kept then, and the conflict that it may add. -/
theorem Keeps.perform (call : Recording) :
    ∃ next, index.perform call = (call.answer calls, next) ∧ next.Keeps (calls ++ [call]) ∧
      next.conflicts = index.conflicts ++ (call.answer calls).conflict?.toList := by
  have kept := keeps call.path
  cases found : Recording.earliest? calls call.path with
  | none =>
    have answered : call.answer calls = .new call.hash := by simp only [Recording.answer, found]
    rw [found, Option.map_none] at kept
    refine ⟨_, ?_, keeps.append_new call, ?_⟩
    · rw [perform_eq, answered]
      simp only [recordDigest, kept]
      rfl
    · simp [answered, Recorded.conflict?]
  | some first =>
    rw [found, Option.map_some] at kept
    by_cases same : first.hash = call.hash
    · have answered : call.answer calls = .duplicate call.hash := by
        simp only [Recording.answer, found, same, ↓reduceIte]
      refine ⟨index, ?_, keeps.append_again found index.conflicts, ?_⟩
      · rw [perform_eq, answered]
        simp only [recordDigest, kept, Recording.entry, same, ↓reduceIte]
      · simp [answered, Recorded.conflict?]
    · have answered : call.answer calls = .conflict (first.conflict call) := by
        simp only [Recording.answer, found, same, ↓reduceIte]
      refine ⟨_, ?_, keeps.append_again found (index.conflicts ++ [first.conflict call]), ?_⟩
      · rw [perform_eq, answered]
        simp only [recordDigest, kept, Recording.entry, same, ↓reduceIte]
        rfl
      · simp [answered, Recorded.conflict?]

/-- Two paths differ when both were recorded, with different digests at first. -/
theorem Keeps.differ_iff {left right : Path} :
    index.differ left right = true ↔ ∃ first second, Recording.earliest? calls left = some first ∧
      Recording.earliest? calls right = some second ∧ first.hash ≠ second.hash := by
  rw [differ, keeps left, keeps right]
  cases Recording.earliest? calls left <;> cases Recording.earliest? calls right <;>
    simp [Recording.entry]

end Keeps

/-- Calls on an index that was empty: the answers to them, and what is kept. -/
theorem performAll_keeps (calls : List Recording) :
    (empty.performAll calls).2.Keeps calls ∧
      (empty.performAll calls).1 =
        (calls.mapIdx fun place call => call.answer (calls.take place)) ∧
      (empty.performAll calls).2.conflicts =
        (empty.performAll calls).1.filterMap Recorded.conflict? := by
  induction calls using List.reverseRecOn with
  | nil => exact ⟨fun _ => rfl, rfl, rfl⟩
  | append_singleton calls last ih =>
    obtain ⟨keeps, answers, conflicts⟩ := ih
    obtain ⟨next, performed, nextKeeps, nextConflicts⟩ := keeps.perform last
    simp only [performAll_append_singleton, performed]
    refine ⟨nextKeeps, ?_, ?_⟩
    · rw [mapIdx_take_append_singleton Recording.answer, answers]
    · rw [nextConflicts, conflicts, List.filterMap_append]
      rfl

/-- What is said of an index after calls, and of the answers to them. -/
structure FirstWins (calls : List Recording) (given : List Recorded) (index : HashIndex) :
    Prop where
  /-- Every answer is decided by the earliest call before for a path with the same segments. -/
  answers : given = calls.mapIdx fun place call => call.answer (calls.take place)
  conflicts : index.conflicts = given.filterMap Recorded.conflict?
  differ_iff : ∀ left right, index.differ left right = true ↔
    ∃ first second, Recording.earliest? calls left = some first ∧
      Recording.earliest? calls right = some second ∧ first.hash ≠ second.hash
  symmetric : ∀ left right, index.differ left right = index.differ right left
  irreflexive : ∀ left right, left.same right = true → index.differ left right = false
  /-- Later calls do not count, unless they are the earliest ones for one of the paths. -/
  unaffected : ∀ later left right,
    (∀ path, path = left ∨ path = right → (Recording.earliest? calls path).isSome = true ∨
      Recording.earliest? later path = none) →
    (empty.performAll (calls ++ later)).2.differ left right = index.differ left right

/-- Whatever is recorded, the first recording of every path wins. -/
theorem first_recording_wins (calls : List Recording) :
    FirstWins calls (empty.performAll calls).1 (empty.performAll calls).2 := by
  obtain ⟨keeps, answers, conflicts⟩ := performAll_keeps calls
  constructor
  case answers => exact answers
  case conflicts => exact conflicts
  case differ_iff => exact fun left right => keeps.differ_iff
  case symmetric =>
    intro left right
    rw [Bool.eq_iff_iff, keeps.differ_iff, keeps.differ_iff]
    constructor <;>
      exact fun ⟨first, second, foundFirst, foundSecond, different⟩ =>
        ⟨second, first, foundSecond, foundFirst, different.symm⟩
  case irreflexive =>
    intro left right same
    rw [← Bool.not_eq_true, keeps.differ_iff, Recording.earliest?_of_same calls same]
    rintro ⟨first, second, foundFirst, foundSecond, different⟩
    rw [foundFirst] at foundSecond
    exact different (congrArg Recording.hash (Option.some.inj foundSecond))
  case unaffected =>
    intro later left right settled
    have stays : ∀ path, path = left ∨ path = right →
        Recording.earliest? (calls ++ later) path = Recording.earliest? calls path := by
      intro path asked
      rw [Recording.earliest?_append]
      rcases settled path asked with recorded | never
      · exact Option.or_of_isSome recorded
      · rw [never, Option.or_none]
    rw [Bool.eq_iff_iff, (performAll_keeps (calls ++ later)).1.differ_iff, keeps.differ_iff,
      stays left (.inl rfl), stays right (.inr rfl)]

end HashIndex

end ScanMerge
