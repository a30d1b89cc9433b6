import ScanMerge.Proofs.FoundSources
import ScanMerge.Proofs.ManifestPaths
import ScanMerge.Proofs.PathQueries
import ScanMerge.Proofs.RecordedDigests

/-!
Scanning a module whose source files are looked for. They are looked for below the root that the
manifest gives and registered from the root that is kept for the key, which an earlier registration
may have given. Every file that is found is recorded when both roots lead to one directory, and
otherwise every one that is there from the other root as well.
-/

set_option autoImplicit false

namespace ScanMerge

namespace Folder

theorem at?_append {folder inner : Folder} {location : Location}
    (isFolder : folder.at? location = some (.folder inner)) (names : Location) :
    folder.at? (location ++ names) = inner.at? names := by
  induction location generalizing folder with
  | nil =>
    rw [at?_nil] at isFolder
    cases isFolder
    rfl
  | cons name rest ih =>
    obtain ⟨next, found, below⟩ := exists_folder_of_at?_cons isFolder
    rw [List.cons_append, at?_cons_of_folder found]
    exact ih below

/-- Before the last name of a location stand folders. -/
theorem isFolder_of_at?_append {folder : Folder} {location names : Location} (named : names ≠ [])
    {entry : Entry} (found : folder.at? (location ++ names) = some entry) :
    ∃ inner, folder.at? location = some (.folder inner) := by
  induction location generalizing folder with
  | nil => exact ⟨folder, at?_nil folder⟩
  | cons name rest ih =>
    obtain ⟨next, more, split⟩ : ∃ next more, rest ++ names = next :: more :=
      List.exists_cons_of_ne_nil (List.append_ne_nil_of_right_ne_nil _ named)
    rw [List.cons_append, split] at found
    obtain ⟨inner, isFolder, below⟩ := at?_cons_isFolder found
    rw [← split] at below
    obtain ⟨parent, isParent⟩ := ih below
    exact ⟨parent, (at?_cons_of_folder isFolder rest).trans isParent⟩

end Folder

/-- A name that an entry can have leads on. -/
theorem Name.Proper.leads {name : Name} (proper : Name.Proper name) :
    ¬ (name = [] ∨ name = [Path.dot]) ∧ name ≠ [Path.dot, Path.dot] := by
  have segment := proper.segment
  rw [Path.Segment.ofPart?] at segment
  split at segment
  · cases segment
  · next named =>
    split at segment
    · cases segment
    · next notUp => exact ⟨named, notUp⟩

namespace Disk

/-! ### Ways without links -/

section Names

variable {disk : Disk} {links : Nat} {here : Location} {entry : Entry}

theorem isName_of_proper {name : Name} (proper : Name.Proper name)
    (short : ¬ nameLimit < name.length) : IsName name :=
  ⟨proper.leads.1, proper.leads.2, short⟩

/-- The names of a file lead to it, and no link is followed. -/
theorem arrives_names {names : Location} (proper : names.Proper)
    (short : ∀ name ∈ names, ¬ nameLimit < name.length) {content : List UInt8}
    (file : disk.at? (here ++ names) = some (.file content)) :
    disk.Arrives links here names ⟨here ++ names, links, Nat.le_refl _⟩ := by
  induction names generalizing here with
  | nil =>
    simp only [List.append_nil]
    exact .done
  | cons name rest ih =>
    have named := isName_of_proper (proper name List.mem_cons_self) (short name List.mem_cons_self)
    have behind : here ++ name :: rest = here ++ [name] ++ rest := by simp
    rw [behind] at file
    by_cases last : rest = []
    · subst last
      rw [List.append_nil] at file
      exact .file named file
    · obtain ⟨inner, isFolder⟩ := Folder.isFolder_of_at?_append last file
      simp only [behind]
      exact .folder named isFolder
        (ih (fun other member => proper other (List.mem_cons_of_mem _ member))
          (fun other member => short other (List.mem_cons_of_mem _ member)) file)

/-- A way on which the names of an entry lead has no name that is too long. -/
theorem short_of_arrives {names : Location} {arrival : Arrival links}
    (arrives : disk.Arrives links here names arrival) (proper : names.Proper)
    (found : disk.at? (here ++ names) = some entry) :
    ∀ name ∈ names, ¬ nameLimit < name.length := by
  induction arrives with
  | done => exact fun name member => absurd member List.not_mem_nil
  | stays stays _ _ => exact absurd stays (proper _ List.mem_cons_self).leads.1
  | up _ up _ _ => exact absurd up (proper _ List.mem_cons_self).leads.2
  | folder name _ _ ih =>
    intro other member
    rcases List.mem_cons.mp member with rfl | member
    · exact name.short
    · exact ih (fun other member => proper other (List.mem_cons_of_mem _ member))
        (by simpa using found) other member
  | file name _ =>
    intro other member
    rw [List.mem_singleton.mp member]
    exact name.short
  | @link _ here part rest name _ link _ _ _ =>
    intro other member
    rcases List.mem_cons.mp member with rfl | member
    · exact name.short
    · -- Below a link no names lead to an entry.
      have below : disk.at? (here ++ [part] ++ rest) = some entry := by simpa using found
      obtain ⟨inner, isFolder⟩ := Folder.isFolder_of_at?_append (List.ne_nil_of_mem member) below
      rw [Disk.at?, isFolder] at link
      cases link

end Names

/-- A path that is read from a base goes on from where the base leads. -/
theorem exists_locate_join {disk : Disk} {base : Path} {location : Location}
    (located : disk.locate base = .ok location) (isFolder : disk.IsFolder location) :
    ∃ left, ∀ path : Path, path.isAbsolute = false → path.bytes.contains 0 = false →
      ∀ target, (disk.follow left location (Path.parts path.bytes)).map Arrival.location =
          .ok target → disk.locate (base.join path) = .ok target := by
  obtain ⟨noNul, named, arrival, arrives, rfl⟩ := exists_arrival_of_locate located
  obtain ⟨before, joined, parts⟩ := Path.exists_parts_join base
  -- A separator at the end of the base leads nowhere.
  have through : disk.follow linkLimit (disk.start base) before = .ok arrival := by
    rcases parts with whole | trailing
    · rwa [whole] at arrives
    · rw [trailing] at arrives
      rcases follow_snoc_empty disk linkLimit (disk.start base) before with same | ⟨fails, -⟩
      · rwa [same] at arrives
      · rw [fails] at arrives
        cases arrives
  refine ⟨arrival.left, fun path relative pathNoNul target leads => ?_⟩
  have start : disk.start (base.join path) = disk.start base := by
    rw [Disk.start, Disk.start, Path.isAbsolute_join, relative, Bool.false_or]
  have joinedNoNul : (base.join path).bytes.contains 0 = false := by
    rw [List.contains_eq_mem, decide_eq_false_iff_not] at noNul pathNoNul ⊢
    rw [Path.join, if_neg (by simp [relative])]
    split
    · simp [noNul, pathNoNul]
    · simp [noNul, pathNoNul, Path.separator]
  refine locate_of_follow joinedNoNul ?_ ?_
  · rw [Ne, Path.bytes_join_eq_nil_iff base relative]
    exact fun none => named none.1
  · rw [joined path relative, start, follow_append (follow_eq_ok_iff.mp through) isFolder, leads]

/-! ### Readable disks -/

/-- The names on the disk are ones that entries can have, and every file can be read by the path of
its location. -/
structure Readable (disk : Disk) : Prop where
  proper : disk.root.Proper
  reads : ∀ location content, disk.at? location = some (.file content) →
    disk.read location.path = .ok content

section Readable

variable {disk : Disk} (readable : disk.Readable)

include readable

/-- No name on the way to a file is too long, and none has a NUL byte. -/
theorem Readable.spelled {location : Location} {content : List UInt8}
    (file : disk.at? location = some (.file content)) :
    ∀ name ∈ location, ¬ nameLimit < name.length ∧ (0 : UInt8) ∉ name := by
  have proper := (readable.proper.of_at? file).1
  obtain ⟨entry, leads, -⟩ := exists_of_bind_eq_ok (readable.reads location content file)
  obtain ⟨target, located, -⟩ := locate_of_entry leads
  obtain ⟨noNul, -, arrival, arrives, -⟩ := exists_arrival_of_locate located
  have isNamed : location ≠ [] := by
    rintro rfl
    rw [at?, Folder.at?_nil] at file
    cases file
  have parts : Path.parts location.path.bytes = [] :: location := by
    obtain ⟨name, rest, rfl⟩ := List.exists_cons_of_ne_nil isNamed
    exact Location.parts_flatMap proper
  rw [Disk.start, if_pos location.isAbsolute_path, parts, follow_of_stays (.inl rfl)] at arrives
  intro name member
  refine ⟨short_of_arrives (follow_eq_ok_iff.mp arrives) proper file name member,
    fun inside => ?_⟩
  have contained : (0 : UInt8) ∈ location.path.bytes := by
    rw [Path.mem_iff_mem_part (by decide), parts]
    exact ⟨name, List.mem_cons_of_mem _ member, inside⟩
  rw [← List.contains_iff_mem, noNul] at contained
  cases contained

/-- What a search finds below a directory is there for every spelling of the directory. -/
theorem Readable.source {root : Path} {location : Location} {folder : Folder}
    (located : disk.locate root = .ok location)
    (isFolder : disk.at? location = some (.folder folder)) {names : Location}
    {content : List UInt8} (file : folder.at? names = some (.file content)) :
    disk.canonicalize (root.join (ScannerSettings.relativePath names)) =
        .ok (Location.path (location ++ names)) ∧
      disk.source root (ScannerSettings.relativePath names) =
        .ok ⟨Location.path (location ++ names), content⟩ := by
  have whole : disk.at? (location ++ names) = some (.file content) :=
    (Folder.at?_append isFolder names).trans file
  have spelled := readable.spelled whole
  have proper : names.Proper := fun name member =>
    (readable.proper.of_at? whole).1 name (List.mem_append_right _ member)
  have named : names ≠ [] := by
    rintro rfl
    rw [Folder.at?_nil] at file
    cases file
  have parts := ScannerSettings.parts_relativePath proper named
  have noNul : (ScannerSettings.relativePath names).bytes.contains 0 = false := by
    rw [List.contains_eq_mem, decide_eq_false_iff_not, Path.mem_iff_mem_part (by decide), parts]
    rintro ⟨name, member, inside⟩
    exact (spelled name (List.mem_append_right _ member)).2 inside
  obtain ⟨left, joins⟩ := exists_locate_join located ⟨folder, isFolder⟩
  have arrives : disk.locate (root.join (ScannerSettings.relativePath names)) =
      .ok (location ++ names) := by
    refine joins _ (ScannerSettings.isAbsolute_relativePath proper named) noNul _ ?_
    have short := fun name member => (spelled name (List.mem_append_right _ member)).1
    rw [parts, follow_eq_ok_iff.mpr (arrives_names proper short whole)]
    rfl
  have canonical : disk.canonicalize (root.join (ScannerSettings.relativePath names)) =
      .ok (Location.path (location ++ names)) := by
    rw [canonicalize, arrives]
    rfl
  refine ⟨canonical, ?_⟩
  rw [Disk.source, resolveIn, resolve, canonical]
  simp only [readable.reads _ content whole]

end Readable

/-- Spellings of a path to a directory lead there alike. -/
theorem locate_of_same {disk : Disk} {left right : Path} (same : left.same right = true)
    {location : Location} (located : disk.locate right = .ok location)
    (isFolder : disk.IsFolder location) : disk.locate left = .ok location := by
  obtain ⟨inner, found⟩ := isFolder
  have alike := Path.alike_of_same same
  cases leftEnds : left.trails with
  | false =>
    cases rightEnds : right.trails with
    | false => rw [disk.locate_of_trails_eq alike (leftEnds.trans rightEnds.symm), located]
    | true =>
      rcases disk.locate_of_trails alike.symm rightEnds leftEnds with equal | ⟨fails, -⟩
      · rw [← equal, located]
      · rw [located] at fails
        cases fails
  | true =>
    cases rightEnds : right.trails with
    | true => rw [disk.locate_of_trails_eq alike (leftEnds.trans rightEnds.symm), located]
    | false =>
      rcases disk.locate_of_trails alike leftEnds rightEnds with
        equal | ⟨-, target, content, reached, file⟩
      · rw [equal, located]
      · -- A separator at the end does not matter behind a directory.
        rw [located] at reached
        cases reached
        rw [found] at file
        cases file

end Disk

/-! ### Records -/

namespace FileIndex

variable {index : FileIndex}

/-- A content of a path without a record adds one, and all others stay. -/
theorem find?_registerContent_of_absent {other : Path} (absent : index.find? other = none)
    (moduleKey : String) (content : List UInt8) (path : Path) :
    (index.registerContent moduleKey other content).2.find? path =
      (index.find? path).or ([index.recordOf moduleKey other content
        (index.hashes.record other moduleKey content).1.hash].find? (·.path.same path)) := by
  have first : other.same path = true → index.find? path = none := fun own =>
    (find?_of_same own index).symm.trans absent
  rw [registerContent, absent]
  exact find?_insertRecord first

theorem find?_registerContent_of_found {path : Path} {record : FileRecord}
    (found : index.find? path = some record) (moduleKey : String) (other : Path)
    (content : List UInt8) :
    (index.registerContent moduleKey other content).2.find? path = some record := by
  cases held : index.find? other with
  | some kept =>
    rw [registerContent, held]
    simp only
    split <;> exact found
  | none => rw [find?_registerContent_of_absent held, found, Option.some_or]

theorem exists_find?_registerContent (moduleKey : String) (path : Path) (content : List UInt8) :
    ∃ record, (index.registerContent moduleKey path content).2.find? path = some record := by
  cases held : index.find? path with
  | some kept => exact ⟨kept, find?_registerContent_of_found held moduleKey path content⟩
  | none =>
    rw [find?_registerContent_of_absent held, held, Option.none_or]
    exact ⟨_, List.find?_cons_of_pos (Path.same_self path)⟩

end FileIndex

namespace Session

/-! ### Registering files -/

/-- The records of the earlier session are those of the later one, which may have more. -/
def KeepsRecords (before after : Session) : Prop :=
  ∀ path record, before.files.find? path = some record → after.files.find? path = some record

section Ready

variable {session : Session} {moduleKey : String} {module : Module}
  (ready : session.Ready moduleKey module) {disk : Disk} {path : Path}

include ready

/-- A file that is there from the root of the module is recorded. -/
theorem Ready.registerFile_of_source {source : Source}
    (found : disk.source module.root path = .ok source) :
    ∃ record after, session.registerFile disk moduleKey path = .ok (some record, after) ∧
      session.Frames after ∧ session.KeepsRecords after ∧
      ∃ kept, after.files.find? source.path = some kept := by
  have registers : session.files.register disk moduleKey module.root path =
      .ok (session.files.registerContent moduleKey source.path source.content) := by
    rw [FileIndex.register_eq, found]
    rfl
  have keeps := fun other record (known : session.files.find? other = some record) =>
    FileIndex.find?_registerContent_of_found known moduleKey source.path source.content
  have held : ∃ kept, (session.files.registerContent moduleKey source.path
      source.content).2.find? source.path = some kept :=
    FileIndex.exists_find?_registerContent moduleKey source.path source.content
  simp only [Session.registerFile, checkCollecting_of_collecting ready.collecting,
    module_of_known ready.known, registers, bind, Except.bind]
  generalize session.files.registerContent moduleKey source.path source.content = outcome
    at keeps held ⊢
  obtain ⟨registration, files⟩ := outcome
  cases registration with
  | recorded record =>
    refine ⟨_, _, rfl, ?_⟩
    split <;> exact ⟨⟨rfl, rfl, rfl⟩, keeps, held⟩
  | duplicate record => exact ⟨_, _, rfl, ⟨rfl, rfl, rfl⟩, keeps, held⟩
  | conflict kept conflict => exact ⟨_, _, rfl, ⟨rfl, rfl, rfl⟩, keeps, held⟩

/-- A file that is not there is left out. -/
theorem Ready.registerFile_of_error {error : PathError}
    (fails : disk.source module.root path = .error error) :
    ∃ after, session.registerFile disk moduleKey path = .ok (none, after) ∧
      session.Frames after ∧ session.KeepsRecords after := by
  have registers : session.files.register disk moduleKey module.root path = .error error := by
    rw [FileIndex.register_eq, fails]
    rfl
  simp only [Session.registerFile, checkCollecting_of_collecting ready.collecting,
    module_of_known ready.known, registers, bind, Except.bind]
  exact ⟨_, rfl, ⟨rfl, rfl, rfl⟩, fun _ _ known => known⟩

variable (disk path) in
/-- Whatever file is registered: it is recorded when it is there and left out otherwise. -/
theorem Ready.records_registerFile :
    ∃ record after, session.registerFile disk moduleKey path = .ok (record, after) ∧
      session.Frames after ∧ session.KeepsRecords after ∧
      record.isSome = (disk.source module.root path).isOk ∧
      ∀ source, disk.source module.root path = .ok source →
        ∃ kept, after.files.find? source.path = some kept := by
  cases found : disk.source module.root path with
  | ok source =>
    obtain ⟨record, after, registers, frames, keeps, held⟩ := ready.registerFile_of_source found
    refine ⟨some record, after, registers, frames, keeps, rfl, ?_⟩
    rintro other ⟨⟩
    exact held
  | error error =>
    obtain ⟨after, registers, frames, keeps⟩ := ready.registerFile_of_error found
    exact ⟨none, after, registers, frames, keeps, rfl, fun source there => (by cases there)⟩

end Ready

/-- What registering files did: those that are there from the root of their module are counted and
recorded, and the others are counted as left out. -/
structure RecordsFiles (before after : Session) (disk : Disk) (root : Path) (paths : List Path)
    (registered excluded : Nat) : Prop where
  frames : before.Frames after
  keeps : before.KeepsRecords after
  registered : registered = paths.countP fun path => (disk.source root path).isOk
  excluded : excluded = paths.countP fun path => !(disk.source root path).isOk
  recorded : ∀ path ∈ paths, ∀ source, disk.source root path = .ok source →
    ∃ record, after.files.find? source.path = some record

theorem Ready.records_registerFiles {session : Session} {moduleKey : String} {module : Module}
    (ready : session.Ready moduleKey module) (disk : Disk) (paths : List Path) :
    ∃ registered excluded after,
      session.registerFiles disk moduleKey paths = .ok (registered, excluded, after) ∧
        session.RecordsFiles after disk module.root paths registered excluded := by
  induction paths generalizing session with
  | nil =>
    exact ⟨0, 0, session, rfl, .refl _, fun _ _ known => known, rfl, rfl,
      fun path member => absurd member List.not_mem_nil⟩
  | cons path rest ih =>
    obtain ⟨record, next, registers, frames, keeps, counts, held⟩ :=
      ready.records_registerFile disk path
    obtain ⟨registered, excluded, after, others, later⟩ := ih (frames.ready ready)
    refine ⟨if record.isSome then registered + 1 else registered,
      if record.isSome then excluded else excluded + 1, after, ?_, ?_⟩
    · simp only [Session.registerFiles, registers, others, bind, Except.bind]
      cases record <;> rfl
    · refine ⟨frames.trans later.frames, fun other record known =>
        later.keeps other record (keeps other record known), ?_, ?_, ?_⟩
      · rw [List.countP_cons, ← later.registered, counts]
        cases (disk.source module.root path).isOk <;> rfl
      · rw [List.countP_cons, ← later.excluded, counts]
        cases (disk.source module.root path).isOk <;> rfl
      · intro other member source there
        rcases List.mem_cons.mp member with rfl | member
        · obtain ⟨kept, found⟩ := held source there
          exact ⟨kept, later.keeps _ _ found⟩
        · exact later.recorded other member source there

/-! ### Scanning a module -/

/-- A registration that only adds to another collection leaves the records. -/
theorem files_of_accepted {session after : Session} {checked : Except SessionError Unit}
    {known : Except SessionError Module} {accept : Module → Session}
    (keeps : ∀ module, (accept module).files = session.files)
    (registers : (checked >>= fun _ => known >>= fun module => .ok (accept module)) = .ok after) :
    after.files = session.files := by
  obtain ⟨_, -, registers⟩ := exists_of_bind_eq_ok registers
  obtain ⟨module, -, registers⟩ := exists_of_bind_eq_ok registers
  rw [← Except.ok.inj registers, keeps]

theorem files_of_foldlM {α : Type} {register : Session → α → Except SessionError Session}
    {values : List α} {session after : Session}
    (registers : values.foldlM register session = .ok after)
    (keeps : ∀ session value after, register session value = .ok after →
      after.files = session.files) : after.files = session.files := by
  induction values generalizing session with
  | nil => cases registers; rfl
  | cons value rest ih =>
    rw [List.foldlM_cons] at registers
    obtain ⟨next, first, others⟩ := exists_of_bind_eq_ok registers
    exact (ih others).trans (keeps _ _ _ first)

/-- The records that a scan leaves are those after its files. -/
theorem files_of_scanModule {session after : Session} {settings : ScannerSettings} {disk : Disk}
    {entry : ModuleEntry} {scan : ModuleScan}
    (scans : session.scanModule settings disk entry = .ok (scan, after)) :
    ∃ answer named registered excluded filed,
      session.registerModule entry.module = .ok (answer, named) ∧
      named.registerFiles disk entry.key (entry.sourceFiles settings disk) =
        .ok (registered, excluded, filed) ∧
      after.files = filed.files ∧
      scan = ⟨entry.key, registered, excluded, entry.artifacts.length⟩ := by
  obtain ⟨⟨answer, named⟩, names, scans⟩ := exists_of_bind_eq_ok scans
  obtain ⟨⟨registered, excluded, filed⟩, files, scans⟩ := exists_of_bind_eq_ok scans
  obtain ⟨collected, artifacts, scans⟩ := exists_of_bind_eq_ok scans
  obtain ⟨told, telemetry, scans⟩ := exists_of_bind_eq_ok scans
  obtain ⟨documented, documents, scans⟩ := exists_of_bind_eq_ok scans
  obtain ⟨last, methods, scans⟩ := exists_of_bind_eq_ok scans
  cases scans
  refine ⟨answer, named, registered, excluded, filed, names, files, ?_, rfl⟩
  calc
    after.files = documented.files :=
      files_of_foldlM methods fun _ _ _ => files_of_accepted fun _ => rfl
    _ = told.files := files_of_foldlM documents fun _ _ _ => files_of_accepted fun _ => rfl
    _ = collected.files := files_of_foldlM telemetry fun _ _ _ => files_of_accepted fun _ => rfl
    _ = filed.files := files_of_foldlM artifacts fun _ _ _ => files_of_accepted fun _ => rfl

/-- The root that the files of a module are registered from: that of the module which came first
under its key. -/
def keptRoot (session : Session) (entry : ModuleEntry) : Path :=
  ((session.modules.get? entry.key).getD entry.module).root

/-- What a scan leaves for the source files that it found itself. A file found below the root of the
entry is registered by the same path from the root that is kept. -/
structure RecordsFound (session : Session) (settings : ScannerSettings) (disk : Disk)
    (entry : ModuleEntry) (scan : ModuleScan) (after : Session) : Prop where
  registered : scan.filesRegistered = (settings.scan disk entry.root).countP
    fun path => (disk.source (session.keptRoot entry) path).isOk
  excluded : scan.filesExcluded = (settings.scan disk entry.root).countP
    fun path => !(disk.source (session.keptRoot entry) path).isOk
  recorded : ∀ path ∈ settings.scan disk entry.root, ∀ source,
    disk.source (session.keptRoot entry) path = .ok source →
      ∃ record, after.files.find? source.path = some record
  /-- Nothing is missed when both roots lead to one directory. -/
  complete : disk.locate (session.keptRoot entry) = disk.locate entry.root →
    (∀ path ∈ settings.scan disk entry.root, ∃ canonical record,
      disk.canonicalize (entry.root.join path) = .ok canonical ∧
        after.files.find? canonical = some record) ∧
    scan.filesRegistered = (settings.scan disk entry.root).length ∧ scan.filesExcluded = 0
  /-- They do when the key is new, or was registered with the same root. -/
  sameRoot : (∀ earlier, session.modules.get? entry.key = some earlier →
      earlier.root.same entry.root = true) →
    disk.locate (session.keptRoot entry) = disk.locate entry.root

/-- Scanning a module while collecting goes through. Of the files that are found below its root it
records and counts those that are there from the root kept for its key, and these are all of them
when that leads to the same directory. -/
theorem scanModule_records_found {session : Session} (collecting : session.phase = .collecting)
    {disk : Disk} (readable : disk.Readable) (settings : ScannerSettings) {entry : ModuleEntry}
    (searches : entry.sources = none) {folder : Folder}
    (leads : disk.entry entry.root = .ok (.folder folder)) :
    ∃ scan after, session.scanModule settings disk entry = .ok (scan, after) ∧
      session.RecordsFound settings disk entry scan after := by
  obtain ⟨scan, after, scans, -, -⟩ := scanModule_of_collecting collecting settings disk entry
  obtain ⟨answer, named, registered, excluded, filed, names, files, records, rfl⟩ :=
    files_of_scanModule scans
  obtain ⟨answer, next, sameNames, ready, -⟩ := registerModule_ready collecting entry.module
  rw [names] at sameNames
  cases sameNames
  obtain ⟨registered, excluded, filed, sameFiles, outcome⟩ :=
    ready.records_registerFiles disk (entry.sourceFiles settings disk)
  have own : entry.module.key = entry.key := rfl
  rw [own, files] at sameFiles
  cases sameFiles
  have sources : entry.sourceFiles settings disk = settings.scan disk entry.root := by
    rw [ModuleEntry.sourceFiles, searches]
    rfl
  rw [sources] at outcome
  change named.RecordsFiles filed disk (session.keptRoot entry) _ registered excluded at outcome
  obtain ⟨location, located, isFolder⟩ := Disk.locate_of_entry leads
  -- A file that is found is there from every path to the directory.
  have found : ∀ path ∈ settings.scan disk entry.root, ∃ source,
      disk.canonicalize (entry.root.join path) = .ok source.path ∧
        ∀ root, disk.locate root = .ok location → disk.source root path = .ok source := by
    intro path member
    obtain ⟨names, finds, rfl⟩ := (ScannerSettings.mem_scan leads settings path).mp member
    obtain ⟨content, file⟩ := finds.isFile
    exact ⟨⟨Location.path (location ++ names), content⟩,
      (readable.source located isFolder file).1,
      fun root leadsThere => (readable.source leadsThere isFolder file).2⟩
  refine ⟨_, after, scans, outcome.registered, outcome.excluded, ?_, ?_, ?_⟩
  · intro path member source there
    rw [records]
    exact outcome.recorded path member source there
  · intro together
    rw [located] at together
    have there : ∀ path ∈ settings.scan disk entry.root,
        (disk.source (session.keptRoot entry) path).isOk = true := by
      intro path member
      obtain ⟨source, -, everywhere⟩ := found path member
      rw [everywhere _ together]
      rfl
    refine ⟨fun path member => ?_, ?_, ?_⟩
    · obtain ⟨source, canonical, everywhere⟩ := found path member
      obtain ⟨record, held⟩ := outcome.recorded path member source (everywhere _ together)
      exact ⟨source.path, record, canonical, by rw [records, held]⟩
    · exact outcome.registered.trans (List.countP_eq_length.mpr there)
    · refine outcome.excluded.trans (List.countP_eq_zero.mpr fun path member => ?_)
      rw [there path member]
      exact Bool.false_ne_true
  · intro same
    rw [keptRoot]
    cases known : session.modules.get? entry.key with
    | none => rfl
    | some earlier =>
      rw [located]
      exact Disk.locate_of_same (same earlier known) located ⟨folder, isFolder⟩

/-- A disk with the file `b/B.vb`. -/
def nestedDisk : Disk :=
  ⟨.folder [0x62] (.file [0x42, 0x2E, 0x76, 0x62] [] .empty) .empty, [],
    by simp [Folder.Ordered, Folder.names]⟩

def otherRoot : Session :=
  { Session.ofSettings {} with
    modules := (ModuleTable.register .empty ⟨"App", ⟨[0x61]⟩, .main⟩).2 }

/-- The module again, with the root `b`. -/
def movedModule : ModuleEntry :=
  { key := "App", root := ⟨[0x62]⟩, projectType := .main }

theorem readable_nestedDisk : nestedDisk.Readable := by
  refine ⟨⟨⟨rfl, by decide⟩, ⟨⟨rfl, by decide⟩, trivial⟩, trivial⟩, ?_⟩
  intro location content file
  have only : location = [[0x62], [0x42, 0x2E, 0x76, 0x62]] ∧ content = [] := by
    rw [Disk.at?, nestedDisk] at file
    rcases location with - | ⟨first, - | ⟨second, rest⟩⟩
    · rw [Folder.at?_nil] at file
      cases file
    · rw [Folder.at?_singleton] at file
      simp [Folder.find?] at file
    · obtain ⟨inner, isFolder, below⟩ := Folder.at?_cons_isFolder file
      simp [Folder.find?] at isFolder
      obtain ⟨rfl, rfl⟩ := isFolder
      rw [Folder.at?] at below
      by_cases own : [0x42, 0x2E, 0x76, 0x62] = second <;> by_cases last : rest = [] <;>
        simp_all [Folder.find?]
  obtain ⟨rfl, rfl⟩ := only
  have opened : nestedDisk.openAt (Location.path [[0x62], [0x42, 0x2E, 0x76, 0x62]]) =
      .ok [[0x62], [0x42, 0x2E, 0x76, 0x62]] := by decide +kernel
  simp only [Disk.read, Disk.entry, opened]
  rfl

/-- The file `B.vb` that is found below `b` is looked for in `a`, and left out. -/
theorem scanModule_records_found_movedModule :
    otherRoot.phase = .collecting ∧ nestedDisk.Readable ∧ movedModule.sources = none ∧
      nestedDisk.entry movedModule.root =
        .ok (.folder (.file [0x42, 0x2E, 0x76, 0x62] [] .empty)) ∧
      ScannerSettings.scan {} nestedDisk movedModule.root = [⟨[0x42, 0x2E, 0x76, 0x62]⟩] ∧
      ∃ scan after, otherRoot.scanModule {} nestedDisk movedModule = .ok (scan, after) ∧
        scan.filesRegistered = 0 ∧ scan.filesExcluded = 1 := by
  have opened : nestedDisk.openAt ⟨[0x62]⟩ = .ok [[0x62]] := by decide +kernel
  have leads : nestedDisk.entry movedModule.root =
      .ok (.folder (.file [0x42, 0x2E, 0x76, 0x62] [] .empty)) := by
    simp only [Disk.entry, movedModule, opened]
    rfl
  have found : ScannerSettings.scan {} nestedDisk movedModule.root =
      [⟨[0x42, 0x2E, 0x76, 0x62]⟩] := by
    rw [ScannerSettings.scan, leads]
    decide +kernel
  have kept : otherRoot.keptRoot movedModule = ⟨[0x61]⟩ := rfl
  have missing : nestedDisk.locate (Path.join ⟨[0x61]⟩ ⟨[0x42, 0x2E, 0x76, 0x62]⟩) =
      .error .notFound := by decide +kernel
  have elsewhere : (nestedDisk.source (otherRoot.keptRoot movedModule)
      ⟨[0x42, 0x2E, 0x76, 0x62]⟩).isOk = false := by
    rw [kept, Disk.source, Disk.resolveIn, Disk.resolve, Disk.canonicalize, missing]
    rfl
  refine ⟨rfl, readable_nestedDisk, rfl, leads, found, ?_⟩
  obtain ⟨scan, after, scans, records⟩ :=
    scanModule_records_found (rfl : otherRoot.phase = .collecting) readable_nestedDisk {} rfl leads
  refine ⟨scan, after, scans, ?_, ?_⟩
  · rw [records.registered, found, List.countP_singleton, elsewhere]
    rfl
  · rw [records.excluded, found, List.countP_singleton, elsewhere]
    rfl

end Session

end ScanMerge
