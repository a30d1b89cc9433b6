import Mathlib.Data.List.Induction
import ScanMerge.Proofs.DigestHistories
import ScanMerge.Proofs.RecordedDigests

/-!
Contents that modules offer for paths, one after the other. The first offer for a path gives its
record and its digest, which stay; every later one repeats the content or is a conflict with it. So
the records and the digests, which are kept apart, hold the same paths at every moment.
-/

set_option autoImplicit false

namespace ScanMerge

/-- A content that a module registers for a path. -/
structure Offer where
  moduleKey : String
  path : Path
  content : List UInt8

namespace Offer

/-- The first offer for a path, however the offer spells it. -/
def first? (offers : List Offer) (path : Path) : Option Offer :=
  offers.find? (·.path.same path)

/-- The digest that is kept for the path of an offer when it is the first one. -/
def entry (offer : Offer) : HashIndex.Entry :=
  ⟨offer.path, offer.moduleKey, digest offer.content⟩

/-- The record of the path of an offer when it is the first one. -/
def record (settings : Settings) (offer : Offer) : FileRecord :=
  let fallback := Text.fallbackEncoding settings.encoding.default
  let encoding := Text.detectEncoding fallback offer.content
  let classifier := Classifier.ofSettings settings.classifier
  { path := offer.path
    moduleKey := offer.moduleKey
    encoding
    hash := digest offer.content
    generated := (classifier.classify offer.path offer.content encoding).generated
    wrongEncoding := (classifier.classify offer.path offer.content encoding).wrongEncoding }

/-- The conflict of an offer with the first one for its path. -/
def conflict (first later : Offer) : Conflict :=
  { path := later.path
    keptModule := first.moduleKey
    keptHash := digest first.content
    rejectedModule := later.moduleKey
    rejectedHash := digest later.content }

/-- The answer to an offer that comes after others. -/
def answer (offer : Offer) (settings : Settings) (before : List Offer) : FileRegistration :=
  match first? before offer.path with
  | none => .recorded (offer.record settings)
  | some first =>
    if digest first.content = digest offer.content then .duplicate (first.record settings)
    else .conflict (first.record settings) (first.conflict offer)

@[simp] theorem path_record (settings : Settings) (offer : Offer) :
    (offer.record settings).path = offer.path := rfl

@[simp] theorem moduleKey_record (settings : Settings) (offer : Offer) :
    (offer.record settings).moduleKey = offer.moduleKey := rfl

@[simp] theorem hash_record (settings : Settings) (offer : Offer) :
    (offer.record settings).hash = digest offer.content := rfl

theorem first?_append_singleton (offers : List Offer) (last : Offer) (path : Path) :
    first? (offers ++ [last]) path =
      (first? offers path).or (if last.path.same path then some last else none) := by
  rw [first?, List.find?_append, first?]
  congr 1
  cases own : last.path.same path <;> simp [own]

/-- The first offer stays the first one when more offers follow. -/
theorem first?_of_prefix {earlier offers : List Offer} (before : earlier <+: offers) {path : Path}
    {offer : Offer} (found : first? earlier path = some offer) :
    first? offers path = some offer := by
  obtain ⟨later, rfl⟩ := before
  rw [first?, List.find?_append]
  rw [first?] at found
  rw [found, Option.some_or]

section Answer

variable (settings : Settings) {before : List Offer} {offer first : Offer}

theorem answer_of_absent (absent : first? before offer.path = none) :
    offer.answer settings before = .recorded (offer.record settings) := by
  simp only [answer, absent]

variable (found : first? before offer.path = some first)

include found

theorem answer_of_same (same : digest first.content = digest offer.content) :
    offer.answer settings before = .duplicate (first.record settings) := by
  simp only [answer, found]
  rw [if_pos same]

theorem answer_of_different (different : digest first.content ≠ digest offer.content) :
    offer.answer settings before =
      .conflict (first.record settings) (first.conflict offer) := by
  simp only [answer, found]
  rw [if_neg different]

end Answer

/-- An offer is a conflict only with another content of the first offer for its path. -/
theorem of_answer_eq_conflict {settings : Settings} {before : List Offer} {offer : Offer}
    {kept : FileRecord} {found : Conflict}
    (answered : offer.answer settings before = .conflict kept found) :
    ∃ first, first? before offer.path = some first ∧ kept = first.record settings ∧
      found = first.conflict offer ∧ digest first.content ≠ digest offer.content := by
  cases earlier : first? before offer.path with
  | none =>
    rw [answer_of_absent settings earlier] at answered
    cases answered
  | some first =>
    by_cases same : digest first.content = digest offer.content
    · rw [answer_of_same settings earlier same] at answered
      cases answered
    · rw [answer_of_different settings earlier same] at answered
      obtain ⟨sameKept, sameFound⟩ := FileRegistration.conflict.inj answered
      exact ⟨first, rfl, sameKept.symm, sameFound.symm, same⟩

end Offer

/-- The conflict that an answer tells of. -/
def FileRegistration.conflict? : FileRegistration → Option Conflict
  | .recorded _ => none
  | .duplicate _ => none
  | .conflict _ found => some found

namespace FileIndex

def registerOffers (index : FileIndex) : List Offer → List FileRegistration × FileIndex
  | [] => ([], index)
  | offer :: rest =>
    let (answer, next) := index.registerContent offer.moduleKey offer.path offer.content
    let (answers, last) := next.registerOffers rest
    (answer :: answers, last)

theorem registerOffers_append_singleton (index : FileIndex) (offers : List Offer) (last : Offer) :
    index.registerOffers (offers ++ [last]) =
      let before := index.registerOffers offers
      let next := before.2.registerContent last.moduleKey last.path last.content
      (before.1 ++ [next.1], next.2) := by
  induction offers generalizing index with
  | nil => rfl
  | cons first rest ih =>
    simp only [List.cons_append, registerOffers, ih]

/-- A record is the one that is found for its path. -/
theorem Ascending.find?_of_mem {records : List FileRecord} (ascending : Ascending records)
    {record : FileRecord} (member : record ∈ records) :
    records.find? (·.path.same record.path) = some record := by
  induction records with
  | nil => cases member
  | cons present rest ih =>
    obtain ⟨least, restAscending⟩ := List.pairwise_cons.mp ascending
    rcases List.mem_cons.mp member with rfl | member
    · exact List.find?_cons_of_pos (Path.same_self record.path)
    · have notSame : ¬ present.path.same record.path = true := by
        intro same
        have before := least record member
        rw [Path.compare_eq_iff.mpr same] at before
        cases before
      rw [List.find?_cons, Bool.eq_false_iff.mpr notSame]
      exact ih restAscending member

/-- What is said of an index after offers, and of the answers to them. -/
structure Lockstep (settings : Settings) (offers : List Offer) (given : List FileRegistration)
    (index : FileIndex) : Prop where
  /-- A path has a record just when it has a digest. -/
  paths : ∀ path, (∃ record ∈ index.records, record.path.same path = true) ↔
    ∃ entry ∈ index.hashes.entries, entry.path.same path = true
  offered : ∀ path, (∃ record ∈ index.records, record.path.same path = true) ↔
    ∃ offer ∈ offers, offer.path.same path = true
  /-- The record and the digest of a path are those of the first offer for it. -/
  record : ∀ path, index.find? path = (Offer.first? offers path).map (Offer.record settings)
  hash : ∀ path, index.hashes.find? path = (Offer.first? offers path).map Offer.entry
  /-- There are no other records. -/
  records : ∀ record ∈ index.records, ∃ offer ∈ offers,
    Offer.first? offers record.path = some offer ∧ record = offer.record settings
  answers : given = offers.mapIdx fun place offer =>
    offer.answer settings (offers.take place)
  /-- A record that an earlier offer gave is still there. -/
  kept : ∀ earlier, earlier <+: offers → ∀ path record,
    ((ofSettings settings).registerOffers earlier).2.find? path = some record →
      index.find? path = some record
  /-- A conflict names the record that is kept, and a digest other than its own. -/
  conflict : ∀ kept found, FileRegistration.conflict kept found ∈ given →
    index.find? found.path = some kept ∧ found.keptModule = kept.moduleKey ∧
      found.keptHash = kept.hash ∧ found.keptHash ≠ found.rejectedHash
  conflicts : index.conflicts = given.filterMap FileRegistration.conflict?
  ascending : Ascending index.records

/-- An index that holds the first offers, and nothing else. -/
structure HoldsFirsts (index : FileIndex) (settings : Settings) (offers : List Offer) : Prop where
  fallback : index.fallback = Text.fallbackEncoding settings.encoding.default
  classifier : index.classifier = .ofSettings settings.classifier
  record : ∀ path, index.find? path = (Offer.first? offers path).map (Offer.record settings)
  hash : ∀ path, index.hashes.find? path = (Offer.first? offers path).map Offer.entry
  ascending : Ascending index.records

theorem holdsFirsts_ofSettings (settings : Settings) :
    (ofSettings settings).HoldsFirsts settings [] where
  fallback := by simp only [ofSettings]
  classifier := rfl
  record _ := rfl
  hash _ := rfl
  ascending := .nil

section HoldsFirsts

variable {index : FileIndex} {settings : Settings} {offers : List Offer}
  (holds : index.HoldsFirsts settings offers)

include holds

theorem HoldsFirsts.agrees : index.Agrees := by
  intro path
  rw [holds.record, holds.hash, Option.map_map, Option.map_map]
  rfl

theorem HoldsFirsts.recordFor (offer : Offer) :
    index.recordFor offer.moduleKey ⟨offer.path, offer.content⟩ = offer.record settings := by
  simp only [FileIndex.recordFor, recordOf, holds.fallback, holds.classifier, Offer.record]

theorem HoldsFirsts.not_same {path : Path} (absent : Offer.first? offers path = none)
    {record : FileRecord} (member : record ∈ index.records) :
    path.same record.path = false := by
  rw [Bool.eq_false_iff]
  intro same
  have notFound := holds.record path
  rw [absent, Option.map_none, find?, List.find?_eq_none] at notFound
  rw [Path.same_comm] at same
  exact notFound record member same

/-- An offer for a path that had one before changes neither records nor digests. -/
theorem HoldsFirsts.append_again {offer first : Offer}
    (found : Offer.first? offers offer.path = some first) {conflicts : List Conflict} :
    ({ index with hashes := { index.hashes with conflicts } } : FileIndex).HoldsFirsts settings
      (offers ++ [offer]) := by
  have again : ∀ path, Offer.first? (offers ++ [offer]) path = Offer.first? offers path := by
    intro path
    rw [Offer.first?_append_singleton]
    cases own : offer.path.same path with
    | false => simp
    | true =>
      have spelled : Offer.first? offers path = Offer.first? offers offer.path := by
        simp only [Offer.first?, Path.same, Path.same_iff.mp own]
      rw [spelled, found, Option.some_or]
  refine ⟨holds.fallback, holds.classifier, ?_, ?_, holds.ascending⟩
  · intro path
    rw [again]
    exact holds.record path
  · intro path
    rw [again]
    exact holds.hash path

/-- An offer for a path that had none gives the record and the digest of the path. -/
theorem HoldsFirsts.append_new {offer : Offer}
    (absent : Offer.first? offers offer.path = none) :
    (index.adding offer.moduleKey ⟨offer.path, offer.content⟩).HoldsFirsts settings
      (offers ++ [offer]) := by
  have unrecorded : index.find? offer.path = none := by
    rw [holds.record, absent, Option.map_none]
  refine ⟨holds.fallback, holds.classifier, ?_, ?_, ?_⟩
  · intro path
    have first : offer.path.same path = true → index.find? path = none := by
      intro own
      simpa only [find?, Path.same, Path.same_iff.mp own] using unrecorded
    have inserted : (index.adding offer.moduleKey ⟨offer.path, offer.content⟩).find? path =
        (index.find? path).or ([offer.record settings].find? (·.path.same path)) := by
      rw [← holds.recordFor offer]
      exact find?_insertRecord first
    rw [inserted, holds.record, Offer.first?_append_singleton]
    cases Offer.first? offers path with
    | some found => rfl
    | none => cases own : offer.path.same path <;> simp [own, Offer.record]
  · intro path
    have appended : (index.adding offer.moduleKey ⟨offer.path, offer.content⟩).hashes.find? path =
        (index.hashes.find? path).or ([offer.entry].find? (·.path.same path)) :=
      List.find?_append
    rw [appended, holds.hash, Offer.first?_append_singleton]
    cases Offer.first? offers path with
    | some found => rfl
    | none => cases own : offer.path.same path <;> simp [own, Offer.entry]
  · exact ascending_insertRecord holds.ascending fun present member =>
      holds.not_same absent member

/-- One more offer: its answer, the conflict that it may add, and what the index holds then. -/
theorem HoldsFirsts.registerContent (offer : Offer) :
    ∃ next, index.registerContent offer.moduleKey offer.path offer.content =
        (offer.answer settings offers, next) ∧
      next.HoldsFirsts settings (offers ++ [offer]) ∧
      next.conflicts = index.conflicts ++ (offer.answer settings offers).conflict?.toList := by
  have agrees := holds.agrees
  have recorded := holds.record offer.path
  cases found : Offer.first? offers offer.path with
  | none =>
    rw [found, Option.map_none] at recorded
    have answered : index.registerContent offer.moduleKey offer.path offer.content = _ :=
      agrees.registerContent_of_absent offer.moduleKey recorded
    rw [holds.recordFor] at answered
    rw [Offer.answer_of_absent settings found]
    refine ⟨_, answered, holds.append_new found, ?_⟩
    simp [FileRegistration.conflict?, adding, conflicts]
  | some first =>
    rw [found, Option.map_some] at recorded
    by_cases same : digest first.content = digest offer.content
    · rw [Offer.answer_of_same settings found same]
      rw [← Offer.hash_record settings] at same
      refine ⟨index, agrees.registerContent_of_same offer.moduleKey recorded same, ?_, ?_⟩
      · exact holds.append_again found
      · simp [FileRegistration.conflict?]
    · rw [Offer.answer_of_different settings found same]
      rw [← Offer.hash_record settings] at same
      refine ⟨_, agrees.registerContent_of_different offer.moduleKey recorded same, ?_, ?_⟩
      · exact holds.append_again found
      · rfl

end HoldsFirsts

section Registered

variable (settings : Settings) (offers : List Offer)

/-- The answers to offers, each by the offers before it. -/
def expectedAnswers : List FileRegistration :=
  offers.mapIdx fun place offer => offer.answer settings (offers.take place)

theorem expectedAnswers_append_singleton (last : Offer) :
    expectedAnswers settings (offers ++ [last]) =
      expectedAnswers settings offers ++ [last.answer settings offers] :=
  mapIdx_take_append_singleton (fun (offer : Offer) earlier => offer.answer settings earlier)
    offers last

theorem registerOffers_holds :
    ((ofSettings settings).registerOffers offers).2.HoldsFirsts settings offers ∧
      ((ofSettings settings).registerOffers offers).1 = expectedAnswers settings offers ∧
      ((ofSettings settings).registerOffers offers).2.conflicts =
        (expectedAnswers settings offers).filterMap FileRegistration.conflict? := by
  induction offers using List.reverseRecOn with
  | nil => exact ⟨holdsFirsts_ofSettings settings, rfl, rfl⟩
  | append_singleton offers last ih =>
    obtain ⟨holds, answers, conflicts⟩ := ih
    obtain ⟨next, registered, nextHolds, nextConflicts⟩ := holds.registerContent last
    simp only [registerOffers_append_singleton, registered, expectedAnswers_append_singleton]
    refine ⟨nextHolds, by rw [answers], ?_⟩
    rw [nextConflicts, conflicts, List.filterMap_append]
    rfl

theorem mem_records_iff {index : FileIndex} {path : Path} :
    (∃ record ∈ index.records, record.path.same path = true) ↔
      (index.find? path).isSome = true := by
  rw [find?, List.find?_isSome]

/-- Whatever is offered, the records and the digests go together, and both are those of the first
offers. -/
theorem registerOffers_lockstep :
    Lockstep settings offers ((ofSettings settings).registerOffers offers).1
      ((ofSettings settings).registerOffers offers).2 := by
  obtain ⟨holds, answers, conflicts⟩ := registerOffers_holds settings offers
  constructor
  case paths =>
    intro path
    rw [mem_records_iff, ← List.find?_isSome, ← HashIndex.find?, holds.record, holds.hash,
      Option.isSome_map, Option.isSome_map]
  case offered =>
    intro path
    rw [mem_records_iff, holds.record, Option.isSome_map, Offer.first?, List.find?_isSome]
  case record => exact holds.record
  case hash => exact holds.hash
  case records =>
    intro record member
    have found := holds.ascending.find?_of_mem member
    rw [← find?, holds.record] at found
    obtain ⟨offer, first, rfl⟩ := Option.map_eq_some_iff.mp found
    exact ⟨offer, List.mem_of_find?_eq_some first, first, rfl⟩
  case answers => exact answers
  case kept =>
    intro earlier before path record found
    rw [(registerOffers_holds settings earlier).1.record] at found
    obtain ⟨offer, first, rfl⟩ := Option.map_eq_some_iff.mp found
    rw [holds.record, Offer.first?_of_prefix before first]
    rfl
  case conflict =>
    intro kept found member
    rw [answers, expectedAnswers, List.mem_mapIdx] at member
    obtain ⟨place, inside, answered⟩ := member
    obtain ⟨first, earlier, rfl, rfl, different⟩ := Offer.of_answer_eq_conflict answered
    refine ⟨?_, rfl, rfl, different⟩
    have still := Offer.first?_of_prefix (List.take_prefix place offers) earlier
    exact (holds.record _).trans (congrArg (Option.map _) still)
  case conflicts => rw [conflicts, answers]
  case ascending => exact holds.ascending

end Registered

end FileIndex

end ScanMerge
