import ScanMerge.Proofs.Deliveries
import ScanMerge.Proofs.Lifecycle

/-!
The records of files and the digests that are kept for them. Both are looked up by path and agree on
every path, whatever contents the paths had when they were registered.
-/

set_option autoImplicit false

namespace ScanMerge

namespace FileIndex

/-- Every path has the same module and digest in the records and among the digests. -/
def Agrees (index : FileIndex) : Prop :=
  ∀ path, (index.hashes.find? path).map (fun entry => (entry.moduleKey, entry.hash)) =
    (index.find? path).map fun record => (record.moduleKey, record.hash)

theorem agrees_ofSettings (settings : Settings) : (ofSettings settings).Agrees := by
  intro path
  rfl

/-- A record does not hide another one when there is none that is looked for. -/
theorem find?_insertRecord {record : FileRecord} {records : List FileRecord}
    {wanted : FileRecord → Bool} (first : wanted record = true → records.find? wanted = none) :
    (insertRecord record records).find? wanted =
      (records.find? wanted).or ([record].find? wanted) := by
  induction records with
  | nil => rfl
  | cons present rest ih =>
    rw [insertRecord]
    split
    · by_cases own : wanted record = true
      · rw [first own, List.find?_cons_of_pos own, List.find?_cons_of_pos own, Option.none_or]
      · rw [List.find?_cons_of_neg own, List.find?_cons_of_neg own, List.find?_nil, Option.or_none]
    · by_cases here : wanted present = true
      · rw [List.find?_cons_of_pos here, List.find?_cons_of_pos here, Option.some_or]
      · rw [List.find?_cons_of_neg here] at first
        rw [List.find?_cons_of_neg here, List.find?_cons_of_neg here, ih first]

/-- Spellings of one path have one record. -/
theorem find?_of_same {left right : Path} (same : left.same right = true) (index : FileIndex) :
    index.find? left = index.find? right := by
  have spelled : (fun record : FileRecord => record.path.same left) =
      fun record => record.path.same right := by
    funext record
    simp only [Path.same, Path.same_iff.mp same]
  rw [find?, find?, spelled]

section Agrees

variable {index : FileIndex} (agrees : index.Agrees) {path : Path}

include agrees

theorem Agrees.entry_of_found {record : FileRecord} (found : index.find? path = some record) :
    ∃ entry, index.hashes.find? path = some entry ∧ entry.moduleKey = record.moduleKey ∧
      entry.hash = record.hash := by
  have same := agrees path
  rw [found] at same
  obtain ⟨entry, hashed, equal⟩ := Option.map_eq_some_iff.mp same
  exact ⟨entry, hashed, congrArg Prod.fst equal, congrArg Prod.snd equal⟩

theorem Agrees.not_hashed (absent : index.find? path = none) :
    index.hashes.find? path = none := by
  have same := agrees path
  rw [absent] at same
  exact Option.map_eq_none_iff.mp same

variable (moduleKey : String) {content : List UInt8}

/-- A content with the recorded digest changes nothing. -/
theorem Agrees.registerContent_of_same {record : FileRecord}
    (found : index.find? path = some record) (same : record.hash = digest content) :
    index.registerContent moduleKey path content = (.duplicate record, index) := by
  obtain ⟨entry, hashed, -, hash⟩ := agrees.entry_of_found found
  simp only [registerContent, HashIndex.record, HashIndex.recordDigest, hashed, hash.trans same,
    ↓reduceIte, found]

/-- A content with another digest is a conflict with the record. -/
theorem Agrees.registerContent_of_different {record : FileRecord}
    (found : index.find? path = some record) (different : record.hash ≠ digest content) :
    index.registerContent moduleKey path content =
      let conflict : Conflict :=
        ⟨path, record.moduleKey, record.hash, moduleKey, digest content⟩
      (.conflict record conflict,
        { index with
          hashes := { index.hashes with conflicts := index.hashes.conflicts ++ [conflict] } }) := by
  obtain ⟨entry, hashed, keptModule, hash⟩ := agrees.entry_of_found found
  simp only [registerContent, HashIndex.record, HashIndex.recordDigest, hashed, hash, keptModule,
    different, ↓reduceIte, found]

theorem Agrees.registerContent_of_absent (absent : index.find? path = none) :
    index.registerContent moduleKey path content =
      (.recorded (index.recordFor moduleKey ⟨path, content⟩),
        index.adding moduleKey ⟨path, content⟩) := by
  simp only [registerContent, HashIndex.record, HashIndex.recordDigest, agrees.not_hashed absent,
    absent, Recorded.hash]
  rfl

theorem Agrees.adding {source : Source} (absent : index.find? source.path = none) :
    (index.adding moduleKey source).Agrees := by
  intro other
  have same := agrees other
  have first : (source.path.same other) = true → index.find? other = none := fun own =>
    (find?_of_same own index).symm.trans absent
  have recorded : (index.adding moduleKey source).find? other =
      (index.find? other).or ([index.recordFor moduleKey source].find? (·.path.same other)) :=
    find?_insertRecord first
  have hashed : (index.adding moduleKey source).hashes.find? other =
      (index.hashes.find? other).or
        ([HashIndex.Entry.mk source.path moduleKey (digest source.content)].find?
          (·.path.same other)) := List.find?_append
  rw [recorded, hashed]
  cases found : index.find? other with
  | some record =>
    obtain ⟨entry, entryFound, keptModule, hash⟩ := agrees.entry_of_found found
    simp only [entryFound, Option.some_or, Option.map_some, keptModule, hash]
  | none =>
    rw [agrees.not_hashed found, Option.none_or, Option.none_or]
    cases own : source.path.same other <;> simp [own, recordFor, recordOf]

theorem Agrees.registerContent (path : Path) (content : List UInt8) :
    (index.registerContent moduleKey path content).2.Agrees := by
  cases found : index.find? path with
  | none =>
    rw [agrees.registerContent_of_absent moduleKey found]
    exact agrees.adding moduleKey found
  | some record =>
    by_cases same : record.hash = digest content
    · rw [agrees.registerContent_of_same moduleKey found same]
      exact agrees
    · rw [agrees.registerContent_of_different moduleKey found same]
      exact agrees

theorem Agrees.takeAny (source? : Option Source) : (index.takeAny moduleKey source?).1.Agrees := by
  cases source? with
  | none => exact agrees
  | some source => exact agrees.registerContent moduleKey source.path source.content

end Agrees

end FileIndex

namespace Session

theorem agrees_registering {session : Session} (agrees : session.files.Agrees) (disk : Disk)
    (registration : Registration) : (session.registering disk registration).files.Agrees := by
  by_cases collecting : session.phase = .collecting
  · rw [registering_of_collecting collecting]
    exact agrees.takeAny _ _
  · rw [registering_of_left collecting]
    exact agrees

end Session

theorem Step.Genuine.agrees {step : Step} (genuine : step.Genuine)
    (agrees : step.before.session.files.Agrees) : step.after.session.files.Agrees :=
  genuine.keeps (P := fun session => session.files.Agrees) (fun _ _ agrees => agrees)
    (fun _ disk registration agrees => Session.agrees_registering agrees disk registration) agrees

namespace Aggregation

/-- The records and the digests of a run agree. -/
theorem agrees_run (settings : Settings) (registry : Registry) (calls : List (Disk × Call)) :
    ((start settings registry).run calls).session.files.Agrees := by
  apply run_keeps (P := fun session => session.files.Agrees)
  · exact fun _ _ agrees => agrees
  · exact fun _ disk registration agrees => Session.agrees_registering agrees disk registration
  · exact FileIndex.agrees_ofSettings settings

end Aggregation

end ScanMerge
