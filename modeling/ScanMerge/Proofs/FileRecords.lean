import ScanMerge.Proofs.Paths
import ScanMerge.Proofs.Registration

/-!
The records of a run over a disk that does not change. Every file has one content then: a path that
is registered again is found as it was, and only its first module tells two orders apart.
-/

set_option autoImplicit false

namespace ScanMerge

/-- A record without the module that registered it. -/
def FileRecord.anonymous (record : FileRecord) : FileRecord :=
  { record with moduleKey := "" }

/-- A warning without the module that met it first, where that is not the module's own doing. -/
def Warning.anonymous (warning : Warning) : Warning :=
  if warning.kind = .wrongEncoding then { warning with moduleKey := none } else warning

@[simp] theorem FileRecord.path_anonymous (record : FileRecord) :
    record.anonymous.path = record.path := rfl

@[simp] theorem FileRecord.isExcluded_anonymous (record : FileRecord) :
    record.anonymous.isExcluded = record.isExcluded := rfl

/-! ### Sources -/

/-- A file with its canonical path. -/
structure Source where
  path : Path
  content : List UInt8

/-- The disk has the file. -/
structure Source.Genuine (source : Source) (disk : Disk) : Prop where
  canonical : source.path.Canonical
  read : disk.read source.path = .ok source.content

def Disk.source (disk : Disk) (moduleRoot path : Path) : Except PathError Source :=
  match disk.resolveIn moduleRoot path with
  | .error error => .error error
  | .ok canonical =>
    match disk.read canonical with
    | .error error => .error (.unreadable canonical error)
    | .ok content => .ok ⟨canonical, content⟩

theorem Source.Genuine.eq_of_path {first second : Source} {disk : Disk}
    (firstGenuine : first.Genuine disk) (secondGenuine : second.Genuine disk)
    (samePath : first.path = second.path) : first = second := by
  obtain ⟨path, content⟩ := first
  obtain ⟨otherPath, otherContent⟩ := second
  obtain rfl : path = otherPath := samePath
  have read := firstGenuine.read
  rw [secondGenuine.read] at read
  obtain rfl : otherContent = content := Except.ok.inj read
  rfl

theorem Disk.genuine_source {disk : Disk} (working : disk.working.Proper) {moduleRoot path : Path}
    {source : Source} (found : disk.source moduleRoot path = .ok source) :
    source.Genuine disk := by
  rw [Disk.source] at found
  cases resolved : disk.resolveIn moduleRoot path with
  | error error =>
    rw [resolved] at found
    cases found
  | ok canonical =>
    rw [resolved] at found
    cases read : disk.read canonical with
    | error error =>
      simp only [read] at found
      cases found
    | ok content =>
      simp only [read] at found
      cases found
      refine ⟨?_, read⟩
      rw [Disk.resolveIn, Disk.resolve] at resolved
      split at resolved
      · next canonicalized =>
        cases resolved
        exact Disk.canonical_of_canonicalize working canonicalized
      · cases resolved
      · cases resolved

namespace FileIndex

/-! ### Inserting -/

theorem insertRecord_perm (record : FileRecord) (records : List FileRecord) :
    (insertRecord record records).Perm (record :: records) := by
  induction records with
  | nil => exact .refl _
  | cons present rest ih =>
    rw [insertRecord]
    split
    · exact .refl _
    · exact (ih.cons present).trans (.swap record present rest)

theorem mem_insertRecord {record other : FileRecord} {records : List FileRecord} :
    other ∈ insertRecord record records ↔ other = record ∨ other ∈ records := by
  rw [(insertRecord_perm record records).mem_iff, List.mem_cons]

theorem map_anonymous_insertRecord (record : FileRecord) (records : List FileRecord) :
    (insertRecord record records).map FileRecord.anonymous =
      insertRecord record.anonymous (records.map FileRecord.anonymous) := by
  induction records with
  | nil => rfl
  | cons present rest ih =>
    rw [List.map_cons, insertRecord, insertRecord, FileRecord.path_anonymous,
      FileRecord.path_anonymous]
    by_cases before : record.path.compare present.path = .lt
    · rw [if_pos before, if_pos before, List.map_cons, List.map_cons]
    · rw [if_neg before, if_neg before, List.map_cons, ih]

/-- Every record comes before the later ones. -/
def Ascending (records : List FileRecord) : Prop :=
  records.Pairwise fun earlier later => earlier.path.compare later.path = .lt

theorem ascending_insertRecord {record : FileRecord} {records : List FileRecord}
    (ascending : Ascending records)
    (absent : ∀ present ∈ records, record.path.same present.path = false) :
    Ascending (insertRecord record records) := by
  induction records with
  | nil => exact List.pairwise_singleton _ _
  | cons present rest ih =>
    obtain ⟨least, restAscending⟩ := List.pairwise_cons.mp ascending
    rw [insertRecord]
    split
    · next before =>
      refine List.pairwise_cons.mpr ⟨?_, ascending⟩
      intro later member
      rcases List.mem_cons.mp member with rfl | member
      · exact before
      · exact Path.compare_trans before (least later member)
    · next notBefore =>
      have others := ih restAscending fun other member =>
        absent other (List.mem_cons_of_mem _ member)
      refine List.pairwise_cons.mpr ⟨?_, others⟩
      intro later member
      rcases mem_insertRecord.mp member with rfl | member
      · exact Path.compare_total (absent present List.mem_cons_self) notBefore
      · exact least later member

/-- Ascending records are told apart by which they are. -/
theorem Ascending.eq_of_perm {left right : List FileRecord} (leftAscending : Ascending left)
    (rightAscending : Ascending right) (perm : left.Perm right) : left = right := by
  refine List.Perm.eq_of_pairwise ?_ leftAscending rightAscending perm
  intro first second _ _ before after
  have same := Path.compare_trans before after
  rw [Path.compare_eq_iff.mpr (Path.same_self first.path)] at same
  cases same

/-- Records of different paths can be inserted in any order. -/
theorem insertRecord_comm {first second : FileRecord} {records : List FileRecord}
    (ascending : Ascending records) (different : first.path.same second.path = false)
    (firstAbsent : ∀ present ∈ records, first.path.same present.path = false)
    (secondAbsent : ∀ present ∈ records, second.path.same present.path = false) :
    insertRecord second (insertRecord first records) =
      insertRecord first (insertRecord second records) := by
  have firstOnly := ascending_insertRecord ascending firstAbsent
  have secondOnly := ascending_insertRecord ascending secondAbsent
  apply Ascending.eq_of_perm
  · apply ascending_insertRecord firstOnly
    intro present member
    rcases mem_insertRecord.mp member with rfl | member
    · rw [Path.same_comm]
      exact different
    · exact secondAbsent present member
  · apply ascending_insertRecord secondOnly
    intro present member
    rcases mem_insertRecord.mp member with rfl | member
    · exact different
    · exact firstAbsent present member
  · calc
      (insertRecord second (insertRecord first records)).Perm
          (second :: insertRecord first records) := insertRecord_perm _ _
      List.Perm _ (second :: first :: records) := (insertRecord_perm _ _).cons _
      List.Perm _ (first :: second :: records) := .swap _ _ _
      List.Perm _ (first :: insertRecord second records) := (insertRecord_perm _ _).symm.cons _
      List.Perm _ (insertRecord first (insertRecord second records)) :=
        (insertRecord_perm _ _).symm

/-! ### Taking files -/

/-- The index with a file that may be delivered, and the warnings that it raises. -/
def takeAny (index : FileIndex) (moduleKey : String) : Option Source → FileIndex × List Warning
  | none => (index, [])
  | some source =>
    let (registration, index) := index.registerContent moduleKey source.path source.content
    (index, registration.warnings moduleKey)

@[simp] theorem takeAny_none (index : FileIndex) (moduleKey : String) :
    index.takeAny moduleKey none = (index, []) := rfl

@[simp] theorem takeAny_some (index : FileIndex) (moduleKey : String) (source : Source) :
    index.takeAny moduleKey (some source) =
      ((index.registerContent moduleKey source.path source.content).2,
        (index.registerContent moduleKey source.path source.content).1.warnings moduleKey) := rfl

theorem register_eq (index : FileIndex) (disk : Disk) (moduleKey : String)
    (moduleRoot path : Path) :
    index.register disk moduleKey moduleRoot path =
      (disk.source moduleRoot path).map fun source =>
        index.registerContent moduleKey source.path source.content := by
  rw [register, Disk.source]
  cases disk.resolveIn moduleRoot path with
  | error error => rfl
  | ok canonical =>
    cases read : disk.read canonical with
    | error error =>
      simp only [read]
      rfl
    | ok content =>
      simp only [read]
      rfl

section Register

variable {index : FileIndex} {disk : Disk} {moduleKey : String} {moduleRoot path : Path}

/-- Registering a file fails just for what keeps the file from being read. -/
theorem source_of_register_error {error : PathError}
    (failed : index.register disk moduleKey moduleRoot path = .error error) :
    disk.source moduleRoot path = .error error := by
  rw [register_eq] at failed
  cases found : disk.source moduleRoot path with
  | error other =>
    rw [found] at failed
    cases failed
    rfl
  | ok source =>
    rw [found] at failed
    cases failed

/-- Registering a file that can be read registers its content. -/
theorem source_of_register_ok {registration : FileRegistration} {files : FileIndex}
    (registered : index.register disk moduleKey moduleRoot path = .ok (registration, files)) :
    ∃ source, disk.source moduleRoot path = .ok source ∧
      index.registerContent moduleKey source.path source.content = (registration, files) := by
  rw [register_eq] at registered
  cases found : disk.source moduleRoot path with
  | error error =>
    rw [found] at registered
    cases registered
  | ok source =>
    rw [found] at registered
    exact ⟨source, rfl, Except.ok.inj registered⟩

end Register

/-- The record that a file gives. -/
def recordFor (index : FileIndex) (moduleKey : String) (source : Source) : FileRecord :=
  index.recordOf moduleKey source.path source.content (digest source.content)

/-- The index with a record of a file that is not recorded. -/
def adding (index : FileIndex) (moduleKey : String) (source : Source) : FileIndex :=
  { index with
    hashes :=
      { index.hashes with
        entries := index.hashes.entries ++ [⟨source.path, moduleKey, digest source.content⟩] }
    records := insertRecord (index.recordFor moduleKey source) index.records }

/-- The warnings about a file that is not recorded. -/
def newWarnings (index : FileIndex) (moduleKey : String) (source : Source) : List Warning :=
  (FileRegistration.recorded (index.recordFor moduleKey source)).warnings moduleKey

/-- The path is recorded. -/
def Holds (index : FileIndex) (path : Path) : Prop :=
  ∃ record ∈ index.records, record.path = path

theorem holds_adding {index : FileIndex} {moduleKey : String} {source : Source} {path : Path} :
    (index.adding moduleKey source).Holds path ↔ index.Holds path ∨ path = source.path := by
  constructor
  · rintro ⟨record, member, rfl⟩
    rcases mem_insertRecord.mp member with rfl | member
    · exact .inr rfl
    · exact .inl ⟨record, member, rfl⟩
  · rintro (⟨record, member, rfl⟩ | rfl)
    · exact ⟨record, mem_insertRecord.mpr (.inr member), rfl⟩
    · exact ⟨_, mem_insertRecord.mpr (.inl rfl), rfl⟩

theorem anonymous_newWarnings (index : FileIndex) (moduleKey other : String) (source : Source) :
    (index.newWarnings moduleKey source).map Warning.anonymous =
      (index.newWarnings other source).map Warning.anonymous := by
  have wrong : (index.recordFor moduleKey source).wrongEncoding =
      (index.recordFor other source).wrongEncoding := rfl
  rw [newWarnings, newWarnings, FileRegistration.warnings, FileRegistration.warnings, wrong]
  split <;> rfl

/-! ### One disk -/

/-- What an index holds comes from a disk: the digests are those of the contents, and no content
differed from one before. -/
structure Faithful (index : FileIndex) (disk : Disk) : Prop where
  ascending : Ascending index.records
  canonical : ∀ record ∈ index.records, record.path.Canonical
  paths : (index.hashes.entries.map HashIndex.Entry.path).Perm
    (index.records.map FileRecord.path)
  digests : ∀ entry ∈ index.hashes.entries, ∃ content, disk.read entry.path = .ok content ∧
    entry.hash = digest content
  conflicts : index.hashes.conflicts = []

theorem faithful_ofSettings (settings : Settings) (disk : Disk) :
    (ofSettings settings).Faithful disk where
  ascending := .nil
  canonical _ member := absurd member List.not_mem_nil
  paths := .refl _
  digests _ member := absurd member List.not_mem_nil
  conflicts := rfl

section Faithful

variable {index : FileIndex} {disk : Disk} (faithful : index.Faithful disk)

include faithful

theorem Faithful.holds_of_entry {entry : HashIndex.Entry}
    (member : entry ∈ index.hashes.entries) : index.Holds entry.path := by
  have inPaths : entry.path ∈ index.records.map FileRecord.path :=
    faithful.paths.mem_iff.mp (List.mem_map_of_mem member)
  exact List.mem_map.mp inPaths

variable {path : Path} (canonical : path.Canonical)

include canonical

theorem Faithful.path_of_record {record : FileRecord} (member : record ∈ index.records)
    (same : record.path.same path = true) : record.path = path :=
  (faithful.canonical record member).eq_of_same canonical same

theorem Faithful.not_same (absent : ¬ index.Holds path) {record : FileRecord}
    (member : record ∈ index.records) : path.same record.path = false := by
  rw [Bool.eq_false_iff]
  intro same
  rw [Path.same_comm] at same
  exact absent ⟨record, member, faithful.path_of_record canonical member same⟩

theorem Faithful.entry_of_find {entry : HashIndex.Entry}
    (found : index.hashes.find? path = some entry) :
    entry ∈ index.hashes.entries ∧ entry.path = path := by
  have member := List.mem_of_find?_eq_some found
  have same := List.find?_some found
  obtain ⟨record, inside, recordPath⟩ := faithful.holds_of_entry member
  refine ⟨member, ?_⟩
  rw [← recordPath]
  rw [← recordPath] at same
  exact faithful.path_of_record canonical inside same

end Faithful

section Taking

variable {index : FileIndex} {disk : Disk} (faithful : index.Faithful disk) (moduleKey : String)
  {source : Source} (genuine : source.Genuine disk)

include faithful genuine

/-- A file that is recorded is found with its content, and nothing changes. -/
theorem Faithful.takeAny_of_holds (holds : index.Holds source.path) :
    index.takeAny moduleKey (some source) = (index, []) := by
  obtain ⟨record, member, recordPath⟩ := holds
  cases found : index.find? source.path with
  | none =>
    have notSame := List.find?_eq_none.mp found record member
    rw [recordPath] at notSame
    exact absurd (Path.same_self source.path) notSame
  | some kept =>
    cases hashed : index.hashes.find? source.path with
    | none =>
      have inPaths : source.path ∈ index.hashes.entries.map HashIndex.Entry.path := by
        rw [faithful.paths.mem_iff, ← recordPath]
        exact List.mem_map_of_mem member
      obtain ⟨entry, inside, entryPath⟩ := List.mem_map.mp inPaths
      have notSame := List.find?_eq_none.mp hashed entry inside
      rw [entryPath] at notSame
      exact absurd (Path.same_self source.path) notSame
    | some entry =>
      obtain ⟨inside, entryPath⟩ := faithful.entry_of_find genuine.canonical hashed
      obtain ⟨first, firstRead, firstDigest⟩ := faithful.digests entry inside
      have sameContent : first = source.content := by
        rw [entryPath, genuine.read] at firstRead
        exact (Except.ok.inj firstRead).symm
      rw [sameContent] at firstDigest
      simp only [takeAny_some, registerContent, HashIndex.record, HashIndex.recordDigest, hashed,
        firstDigest, ↓reduceIte, found, FileRegistration.warnings]

/-- A file that is not recorded gets a record with its digest. -/
theorem Faithful.takeAny_of_absent (absent : ¬ index.Holds source.path) :
    index.takeAny moduleKey (some source) =
      (index.adding moduleKey source, index.newWarnings moduleKey source) := by
  have notFound : index.find? source.path = none := by
    rw [find?, List.find?_eq_none]
    intro record member
    rw [Path.same_comm, faithful.not_same genuine.canonical absent member]
    exact Bool.false_ne_true
  have notHashed : index.hashes.find? source.path = none := by
    cases hashed : index.hashes.find? source.path with
    | none => rfl
    | some entry =>
      obtain ⟨inside, entryPath⟩ := faithful.entry_of_find genuine.canonical hashed
      exact absurd (entryPath ▸ faithful.holds_of_entry inside) absent
  simp only [takeAny_some, registerContent, HashIndex.record, HashIndex.recordDigest, notHashed,
    notFound, Recorded.hash]
  rfl

theorem Faithful.adding (absent : ¬ index.Holds source.path) :
    (index.adding moduleKey source).Faithful disk where
  ascending := by
    apply ascending_insertRecord faithful.ascending
    intro present member
    exact faithful.not_same genuine.canonical absent member
  canonical := by
    intro record member
    rcases mem_insertRecord.mp member with rfl | member
    · exact genuine.canonical
    · exact faithful.canonical record member
  paths := by
    have inserted := (insertRecord_perm (index.recordFor moduleKey source) index.records).map
      FileRecord.path
    have paths := (faithful.paths.cons source.path).trans inserted.symm
    rw [FileIndex.adding, List.map_append]
    exact (List.perm_append_singleton _ _).trans paths
  digests := by
    intro entry member
    rcases List.mem_append.mp member with member | member
    · exact faithful.digests entry member
    · rw [List.mem_singleton.mp member]
      exact ⟨source.content, genuine.read, rfl⟩
  conflicts := faithful.conflicts

end Taking

theorem Faithful.takeAny {index : FileIndex} {disk : Disk} (faithful : index.Faithful disk)
    (moduleKey : String) {source? : Option Source}
    (genuine : ∀ source ∈ source?, source.Genuine disk) :
    (index.takeAny moduleKey source?).1.Faithful disk := by
  cases source? with
  | none => exact faithful
  | some source =>
    have genuine := genuine source rfl
    by_cases holds : index.Holds source.path
    · rw [faithful.takeAny_of_holds moduleKey genuine holds]
      exact faithful
    · rw [faithful.takeAny_of_absent moduleKey genuine holds]
      exact faithful.adding moduleKey genuine holds

/-! ### Two orders -/

/-- The indexes differ at most in which module registered a file first. -/
structure Similar (left right : FileIndex) : Prop where
  fallback : left.fallback = right.fallback
  classifier : left.classifier = right.classifier
  records : left.records.map FileRecord.anonymous = right.records.map FileRecord.anonymous

theorem Similar.refl (index : FileIndex) : index.Similar index :=
  ⟨rfl, rfl, rfl⟩

theorem Similar.symm {left right : FileIndex} (similar : left.Similar right) :
    right.Similar left :=
  ⟨similar.fallback.symm, similar.classifier.symm, similar.records.symm⟩

theorem Similar.trans {first second third : FileIndex} (before : first.Similar second)
    (after : second.Similar third) : first.Similar third where
  fallback := before.fallback.trans after.fallback
  classifier := before.classifier.trans after.classifier
  records := before.records.trans after.records

theorem Similar.holds {left right : FileIndex} (similar : left.Similar right) {path : Path}
    (holds : left.Holds path) : right.Holds path := by
  obtain ⟨record, member, rfl⟩ := holds
  have inside : record.anonymous ∈ right.records.map FileRecord.anonymous := by
    rw [← similar.records]
    exact List.mem_map_of_mem member
  obtain ⟨other, member, same⟩ := List.mem_map.mp inside
  have samePath := congrArg FileRecord.path same
  rw [FileRecord.path_anonymous, FileRecord.path_anonymous] at samePath
  exact ⟨other, member, samePath⟩

theorem Similar.recordFor {left right : FileIndex} (similar : left.Similar right)
    (moduleKey : String) (source : Source) :
    left.recordFor moduleKey source = right.recordFor moduleKey source := by
  simp only [FileIndex.recordFor, recordOf, similar.fallback, similar.classifier]

/-- Similar indexes take a file alike. -/
theorem Similar.takeAny {left right : FileIndex} {disk : Disk} (similar : left.Similar right)
    (leftFaithful : left.Faithful disk) (rightFaithful : right.Faithful disk) (moduleKey : String)
    {source? : Option Source} (genuine : ∀ source ∈ source?, source.Genuine disk) :
    (left.takeAny moduleKey source?).1.Similar (right.takeAny moduleKey source?).1 ∧
      (left.takeAny moduleKey source?).2 = (right.takeAny moduleKey source?).2 := by
  cases source? with
  | none => exact ⟨similar, rfl⟩
  | some source =>
    have genuine := genuine source rfl
    by_cases holds : left.Holds source.path
    · rw [leftFaithful.takeAny_of_holds moduleKey genuine holds,
        rightFaithful.takeAny_of_holds moduleKey genuine (similar.holds holds)]
      exact ⟨similar, rfl⟩
    · have absent : ¬ right.Holds source.path := fun held => holds (similar.symm.holds held)
      rw [leftFaithful.takeAny_of_absent moduleKey genuine holds,
        rightFaithful.takeAny_of_absent moduleKey genuine absent]
      refine ⟨⟨similar.fallback, similar.classifier, ?_⟩, ?_⟩
      · simp only [adding, map_anonymous_insertRecord, similar.records,
          similar.recordFor moduleKey source]
      · simp only [newWarnings, similar.recordFor moduleKey source]

/-- What two files leave behind: the index, and the warnings of both. -/
def takeBoth (index : FileIndex) (firstKey : String) (first? : Option Source) (secondKey : String)
    (second? : Option Source) : FileIndex × List Warning :=
  (((index.takeAny firstKey first?).1.takeAny secondKey second?).1,
    (index.takeAny firstKey first?).2 ++
      ((index.takeAny firstKey first?).1.takeAny secondKey second?).2)

section Both

variable {index : FileIndex} {disk : Disk} (faithful : index.Faithful disk)
  (firstKey secondKey : String)

include faithful

theorem Faithful.takeBoth_of_holds {first : Source} (firstGenuine : first.Genuine disk)
    (holds : index.Holds first.path) {second? : Option Source}
    (secondGenuine : ∀ second ∈ second?, second.Genuine disk) :
    index.takeBoth firstKey (some first) secondKey second? = index.takeAny secondKey second? ∧
      index.takeBoth secondKey second? firstKey (some first) =
        index.takeAny secondKey second? := by
  have still : (index.takeAny secondKey second?).1.Holds first.path := by
    cases second? with
    | none => exact holds
    | some second =>
      have genuine := secondGenuine second rfl
      by_cases held : index.Holds second.path
      · rw [faithful.takeAny_of_holds secondKey genuine held]
        exact holds
      · rw [faithful.takeAny_of_absent secondKey genuine held]
        exact holds_adding.mpr (.inl holds)
  have second := (faithful.takeAny secondKey secondGenuine).takeAny_of_holds firstKey firstGenuine
    still
  constructor
  · rw [takeBoth, faithful.takeAny_of_holds firstKey firstGenuine holds]
    rfl
  · rw [takeBoth, second, List.append_nil]

/-- A file that two modules register is recorded for the first, whose warning is raised. -/
theorem Faithful.takeBoth_same {first : Source} (genuine : first.Genuine disk)
    (absent : ¬ index.Holds first.path) :
    index.takeBoth firstKey (some first) secondKey (some first) =
      (index.adding firstKey first, index.newWarnings firstKey first) := by
  have added := faithful.adding firstKey genuine absent
  have held := added.takeAny_of_holds secondKey genuine (holds_adding.mpr (.inr rfl))
  rw [takeBoth, faithful.takeAny_of_absent firstKey genuine absent]
  simp only [held, List.append_nil]

theorem Faithful.takeBoth_different {first second : Source} (firstGenuine : first.Genuine disk)
    (secondGenuine : second.Genuine disk) (firstAbsent : ¬ index.Holds first.path)
    (secondAbsent : ¬ index.Holds second.path) (different : first.path ≠ second.path) :
    index.takeBoth firstKey (some first) secondKey (some second) =
      ((index.adding firstKey first).adding secondKey second,
        index.newWarnings firstKey first ++ index.newWarnings secondKey second) := by
  have added := faithful.adding firstKey firstGenuine firstAbsent
  have stillAbsent : ¬ (index.adding firstKey first).Holds second.path := by
    rw [holds_adding, not_or]
    exact ⟨secondAbsent, different.symm⟩
  rw [takeBoth, faithful.takeAny_of_absent firstKey firstGenuine firstAbsent]
  simp only [added.takeAny_of_absent secondKey secondGenuine stillAbsent]
  rfl

/-- The order of two files matters for their first modules only. -/
theorem Faithful.takeBoth_comm {first? second? : Option Source}
    (firstGenuine : ∀ first ∈ first?, first.Genuine disk)
    (secondGenuine : ∀ second ∈ second?, second.Genuine disk) :
    (index.takeBoth firstKey first? secondKey second?).1.Similar
        (index.takeBoth secondKey second? firstKey first?).1 ∧
      ((index.takeBoth firstKey first? secondKey second?).2.map Warning.anonymous).Perm
        ((index.takeBoth secondKey second? firstKey first?).2.map Warning.anonymous) := by
  cases first? with
  | none => simp [takeBoth, Similar.refl]
  | some first =>
    have firstIs := firstGenuine first rfl
    -- A file that is recorded already changes nothing, so that only two new files can interfere.
    by_cases firstHeld : index.Holds first.path
    · obtain ⟨straight, swapped⟩ :=
        faithful.takeBoth_of_holds firstKey secondKey firstIs firstHeld secondGenuine
      rw [straight, swapped]
      exact ⟨.refl _, .refl _⟩
    · cases second? with
      | none => simp [takeBoth, Similar.refl]
      | some second =>
        have secondIs := secondGenuine second rfl
        by_cases secondHeld : index.Holds second.path
        · obtain ⟨straight, swapped⟩ :=
            faithful.takeBoth_of_holds secondKey firstKey secondIs secondHeld firstGenuine
          rw [straight, swapped]
          exact ⟨.refl _, .refl _⟩
        · by_cases samePath : first.path = second.path
          · obtain rfl := firstIs.eq_of_path secondIs samePath
            rw [faithful.takeBoth_same firstKey secondKey firstIs firstHeld,
              faithful.takeBoth_same secondKey firstKey firstIs firstHeld]
            refine ⟨⟨rfl, rfl, ?_⟩, ?_⟩
            · rw [FileIndex.adding, FileIndex.adding, map_anonymous_insertRecord,
                map_anonymous_insertRecord]
              rfl
            · rw [anonymous_newWarnings index firstKey secondKey first]
          · rw [faithful.takeBoth_different firstKey secondKey firstIs secondIs firstHeld
                secondHeld samePath,
              faithful.takeBoth_different secondKey firstKey secondIs firstIs secondHeld
                firstHeld (Ne.symm samePath)]
            have different : first.path.same second.path = false := by
              rw [Bool.eq_false_iff]
              exact fun same => samePath (firstIs.canonical.eq_of_same secondIs.canonical same)
            have firstNew : ∀ record ∈ index.records, first.path.same record.path = false :=
              fun _ member => faithful.not_same firstIs.canonical firstHeld member
            have secondNew : ∀ record ∈ index.records, second.path.same record.path = false :=
              fun _ member => faithful.not_same secondIs.canonical secondHeld member
            have records :
                insertRecord (index.recordFor secondKey second)
                    (insertRecord (index.recordFor firstKey first) index.records) =
                  insertRecord (index.recordFor firstKey first)
                    (insertRecord (index.recordFor secondKey second) index.records) :=
              insertRecord_comm faithful.ascending different firstNew secondNew
            refine ⟨⟨rfl, rfl, ?_⟩, ?_⟩
            · exact congrArg (List.map FileRecord.anonymous) records
            · rw [List.map_append, List.map_append]
              exact List.perm_append_comm

end Both

end FileIndex

end ScanMerge
