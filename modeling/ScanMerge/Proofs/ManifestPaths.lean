import ScanMerge.Proofs.Deliveries
import ScanMerge.Proofs.RegisteredArtifacts
import ScanMerge.Scan
import Mathlib.Data.List.Basic

/-!
Where the artifacts of a manifest are looked for. Loading reads them from the directory of the
manifest, and registering reads what is still relative from the root of the module as well.
-/

set_option autoImplicit false

namespace ScanMerge

namespace Path

/-! ### Parents -/

theorem isAbsolute_of_segments {path : Path} {rest : List Segment}
    (segments : path.segments = .root :: rest) : path.isAbsolute = true := by
  have notRoot : ∀ parts : List (List UInt8), Segment.root ∉ parts.filterMap Segment.ofPart? := by
    intro parts member
    obtain ⟨part, -, root⟩ := List.mem_filterMap.mp member
    rw [Segment.ofPart?] at root
    split at root
    · cases root
    · split at root <;> cases root
  by_cases absolute : path.isAbsolute
  · exact absolute
  · simp only [Path.segments, absolute, Bool.false_eq_true, ↓reduceIte] at segments
    split at segments
    · cases segments
    · next first others split =>
      by_cases here : first = [dot]
      · rw [if_pos here] at segments
        cases segments
      · rw [if_neg here] at segments
        have member : Segment.root ∈ (first :: others).filterMap Segment.ofPart? := by
          rw [segments]
          exact List.mem_cons_self
        exact absurd member (notRoot _)

theorem steps_of_free {name : List UInt8} (free : separator ∉ name) :
    (Path.mk name).steps = (Segment.ofPart? name).toList := by
  rw [steps, parts_of_free free, List.filterMap_cons]
  cases Segment.ofPart? name <;> rfl

/-- Some beginning of a spelling has all steps but the last. -/
theorem exists_take_steps {bytes : List UInt8} (named : (Path.mk bytes).steps ≠ []) :
    ∃ length ≤ bytes.length,
      (Path.mk (bytes.take length)).steps = (Path.mk bytes).steps.dropLast := by
  induction size : bytes.length using Nat.strongRecOn generalizing bytes with
  | ind bound ih =>
    have single : ∀ name : List UInt8, separator ∉ name → (Path.mk name).steps.dropLast = [] := by
      intro name free
      rw [steps_of_free free]
      cases Segment.ofPart? name <;> rfl
    -- The last step stands behind the first separator, or else before it.
    by_cases separated : separator ∈ bytes
    · obtain ⟨name, rest, rfl, free⟩ := List.eq_append_cons_of_mem separated
      rw [steps_append] at named ⊢
      by_cases last : (Path.mk rest).steps = []
      · refine ⟨0, Nat.zero_le _, ?_⟩
        rw [last, List.append_nil, single name free]
        exact steps_empty
      · have shorter : rest.length < bound := by
          rw [List.length_append, List.length_cons] at size
          omega
        obtain ⟨length, inside, steps⟩ := ih rest.length shorter last rfl
        refine ⟨name.length + (length + 1), ?_, ?_⟩
        · rw [List.length_append, List.length_cons] at size
          omega
        · rw [List.take_length_add_append, List.take_succ_cons, steps_append, steps,
            List.dropLast_append_of_ne_nil last]
    · refine ⟨0, Nat.zero_le _, ?_⟩
      rw [single bytes separated]
      exact steps_empty

theorem parent_of_absolute {path : Path} (absolute : path.isAbsolute = true)
    (named : path.steps ≠ []) :
    ∃ parent, path.parent? = some parent ∧ parent.isAbsolute = true := by
  have segments := segments_of_absolute absolute
  have dropped : path.segments.dropLast = .root :: path.steps.dropLast := by
    rw [segments, List.dropLast_cons_of_ne_nil named]
  have present : ¬ (path.segments = [] ∨ path.segments = [.root]) := by
    rw [segments]
    rintro (none | root)
    · cases none
    · exact named (List.cons.inj root).2
  obtain ⟨bytes⟩ := path
  obtain ⟨rest, rfl⟩ : ∃ rest, bytes = separator :: rest := by
    cases bytes with
    | nil => cases absolute
    | cons byte rest =>
      have first : byte = separator := by simpa [isAbsolute] using absolute
      exact ⟨rest, by rw [first]⟩
  have restSteps : (Path.mk (separator :: rest)).steps = (Path.mk rest).steps :=
    steps_append [] rest
  rw [restSteps] at named dropped
  obtain ⟨length, inside, steps⟩ := exists_take_steps named
  have found : ((List.range ((separator :: rest).length + 1)).find? fun length =>
      (Path.mk ((separator :: rest).take length)).segments =
        (Path.mk (separator :: rest)).segments.dropLast).isSome = true := by
    rw [List.find?_isSome]
    refine ⟨length + 1, ?_, ?_⟩
    · rw [List.mem_range, List.length_cons]
      omega
    · have taken : (Path.mk ((separator :: rest).take (length + 1))).isAbsolute = true := rfl
      have takenSteps : (Path.mk ((separator :: rest).take (length + 1))).steps =
          (Path.mk (rest.take length)).steps := steps_append [] (rest.take length)
      rw [decide_eq_true_eq, dropped, segments_of_absolute taken, takenSteps, steps]
  obtain ⟨best, best_eq⟩ := Option.isSome_iff_exists.mp found
  refine ⟨⟨(separator :: rest).take best⟩, ?_, ?_⟩
  · rw [parent?, if_neg present, best_eq]
    rfl
  · have same := List.find?_some best_eq
    rw [decide_eq_true_eq, dropped] at same
    exact isAbsolute_of_segments same

theorem parent_of_relative {path parent : Path} (relative : path.isAbsolute = false)
    (found : path.parent? = some parent) : parent.isAbsolute = false := by
  obtain ⟨bytes⟩ := path
  rw [parent?] at found
  split at found
  · cases found
  · obtain ⟨length, -, rfl⟩ := Option.map_eq_some_iff.mp found
    cases bytes with
    | nil => rw [List.take_nil]; exact relative
    | cons byte rest =>
      cases length with
      | zero => rfl
      | succ length => exact relative

end Path

namespace Disk

/-- Parts without a step lead nowhere. -/
theorem follow_of_no_steps (disk : Disk) (links : Nat) (here : Location) {parts : List Name}
    (none : parts.filterMap Path.Segment.ofPart? = []) :
    disk.follow links here parts = .ok ⟨here, links, Nat.le_refl _⟩ := by
  induction parts with
  | nil => exact follow_nil
  | cons part rest ih =>
    rw [List.filterMap_cons] at none
    cases step : Path.Segment.ofPart? part with
    | some segment =>
      rw [step] at none
      cases none
    | none =>
      rw [step] at none
      have stays : part = [] ∨ part = [Path.dot] := by
        rw [Path.Segment.ofPart?] at step
        split at step
        · assumption
        · split at step <;> cases step
      rw [follow_of_stays stays]
      exact ih none

/-- The root is no file: an absolute path that can be read goes on from there. -/
theorem steps_ne_nil_of_read {disk : Disk} {path : Path} {content : List UInt8}
    (absolute : path.isAbsolute = true) (read : disk.read path = .ok content) :
    path.steps ≠ [] := by
  intro none
  obtain ⟨entry, leads, file⟩ := exists_of_bind_eq_ok read
  obtain ⟨location, located, there⟩ := locate_of_entry leads
  obtain ⟨-, -, arrival, arrives, rfl⟩ := exists_arrival_of_locate located
  rw [Disk.start, if_pos absolute, follow_of_no_steps disk linkLimit [] none] at arrives
  cases arrives
  rw [at?, Folder.at?] at there
  cases there
  cases file

end Disk

namespace Manifest

/-- The directory of a manifest that can be read is absolute when its path is. -/
theorem isAbsolute_directory {disk : Disk} {path : Path} {text : List Char}
    (read : disk.readText path = .ok text) :
    (directory path).isAbsolute = path.isAbsolute := by
  cases absolute : path.isAbsolute with
  | true =>
    cases content : disk.read path with
    | error error =>
      rw [Disk.readText, content] at read
      cases read
    | ok bytes =>
      have named := Disk.steps_ne_nil_of_read absolute content
      obtain ⟨parent, found, parentAbsolute⟩ := Path.parent_of_absolute absolute named
      rw [directory, found]
      exact parentAbsolute
  | false =>
    rw [directory]
    cases found : path.parent? with
    | none => rfl
    | some parent => exact Path.parent_of_relative absolute found

end Manifest

/-! ### Paths from the working directory -/

/-- A path as it is read from the working directory. -/
def Disk.absolute (disk : Disk) (path : Path) : Path :=
  disk.working.path.join path

namespace Disk

theorem absolute_of_absolute (disk : Disk) {path : Path} (absolute : path.isAbsolute = true) :
    disk.absolute path = path :=
  Path.join_absolute absolute

theorem segments_absolute_join (disk : Disk) (base : Path) {path : Path}
    (relative : path.isAbsolute = false) :
    (disk.absolute (base.join path)).segments = (disk.absolute base).segments ++ path.steps := by
  have working := disk.working.isAbsolute_path
  have joined := Path.isAbsolute_join base path
  rw [relative, Bool.false_or] at joined
  cases baseAbsolute : base.isAbsolute with
  | true =>
    rw [baseAbsolute] at joined
    rw [disk.absolute_of_absolute joined, disk.absolute_of_absolute baseAbsolute]
    exact Path.segments_join baseAbsolute relative
  | false =>
    rw [baseAbsolute] at joined
    rw [absolute, absolute, Path.segments_join working joined,
      Path.segments_join working baseAbsolute, Path.steps_join base relative, List.append_assoc]

/-- Reading a path from a base as well makes no difference exactly when the path is absolute, or the
base is the working directory. -/
theorem absolute_join_same (disk : Disk) (base path : Path) :
    (disk.absolute (base.join path)).same (disk.absolute path) = true ↔
      path.isAbsolute = true ∨ (disk.absolute base).same disk.working.path = true := by
  cases pathAbsolute : path.isAbsolute with
  | true =>
    rw [Path.join_absolute pathAbsolute]
    simp
  | false =>
    have direct : (disk.absolute path).segments = disk.working.path.segments ++ path.steps :=
      Path.segments_join disk.working.isAbsolute_path pathAbsolute
    rw [Path.same_iff, Path.same_iff, disk.segments_absolute_join base pathAbsolute, direct,
      List.append_left_inj]
    simp

end Disk

/-! ### Scanning -/

namespace Session

/-- The session collects, and a module is registered under a key. -/
structure Ready (session : Session) (moduleKey : String) (module : Module) : Prop where
  collecting : session.phase = .collecting
  known : session.modules.get? moduleKey = some module

/-- What stays when neither a module nor an artifact is registered. -/
structure Frames (before after : Session) : Prop where
  phase : after.phase = before.phase
  modules : after.modules = before.modules
  artifacts : after.artifacts = before.artifacts

theorem Frames.refl (session : Session) : session.Frames session :=
  ⟨rfl, rfl, rfl⟩

theorem Frames.trans {first second third : Session} (before : first.Frames second)
    (after : second.Frames third) : first.Frames third where
  phase := after.phase.trans before.phase
  modules := after.modules.trans before.modules
  artifacts := after.artifacts.trans before.artifacts

variable {moduleKey : String} {module : Module}

theorem Frames.ready {before after : Session} (frames : before.Frames after)
    (ready : before.Ready moduleKey module) : after.Ready moduleKey module where
  collecting := frames.phase.trans ready.collecting
  known := by rw [frames.modules, ready.known]

section Ready

variable {session : Session} (ready : session.Ready moduleKey module)

include ready

theorem Ready.registerFile (disk : Disk) (path : Path) :
    ∃ record after, session.registerFile disk moduleKey path = .ok (record, after) ∧
      session.Frames after := by
  simp only [Session.registerFile, checkCollecting_of_collecting ready.collecting,
    module_of_known ready.known, bind, Except.bind]
  cases session.files.register disk moduleKey module.root path with
  | error error => exact ⟨_, _, rfl, rfl, rfl, rfl⟩
  | ok outcome =>
    obtain ⟨registration, files⟩ := outcome
    cases registration with
    | recorded record =>
      refine ⟨_, _, rfl, ?_⟩
      split <;> exact ⟨rfl, rfl, rfl⟩
    | duplicate record => exact ⟨_, _, rfl, rfl, rfl, rfl⟩
    | conflict kept found => exact ⟨_, _, rfl, rfl, rfl, rfl⟩

theorem Ready.registerMethod (method : MethodDeclaration) :
    ∃ after, session.registerMethod moduleKey method = .ok after ∧ session.Frames after := by
  simp only [Session.registerMethod, checkCollecting_of_collecting ready.collecting,
    module_of_known ready.known]
  exact ⟨_, rfl, rfl, rfl, rfl⟩

theorem Ready.registerTelemetry (entry : TelemetryEntry) :
    ∃ after, session.registerTelemetry moduleKey entry = .ok after ∧ session.Frames after := by
  simp only [Session.registerTelemetry, checkCollecting_of_collecting ready.collecting,
    module_of_known ready.known]
  exact ⟨_, rfl, rfl, rfl, rfl⟩

theorem Ready.registerDocument (document : Json) :
    ∃ after, session.registerDocument moduleKey document = .ok after ∧ session.Frames after := by
  simp only [Session.registerDocument, checkCollecting_of_collecting ready.collecting,
    module_of_known ready.known]
  exact ⟨_, rfl, rfl, rfl, rfl⟩

theorem Ready.registerFiles (disk : Disk) (paths : List Path) :
    ∃ registered excluded after,
      session.registerFiles disk moduleKey paths = .ok (registered, excluded, after) ∧
        session.Frames after := by
  induction paths generalizing session with
  | nil => exact ⟨0, 0, session, rfl, .refl _⟩
  | cons path rest ih =>
    obtain ⟨record, next, registers, frames⟩ := ready.registerFile disk path
    obtain ⟨registered, excluded, after, others, later⟩ := ih (frames.ready ready)
    simp only [Session.registerFiles, registers, others, bind, Except.bind]
    cases record with
    | none => exact ⟨_, _, _, rfl, frames.trans later⟩
    | some record => exact ⟨_, _, _, rfl, frames.trans later⟩

theorem Ready.foldlM {α : Type} {register : Session → α → Except SessionError Session}
    (registers : ∀ {session : Session}, session.Ready moduleKey module → ∀ value,
      ∃ after, register session value = .ok after ∧ session.Frames after) (values : List α) :
    ∃ after, values.foldlM register session = .ok after ∧ session.Frames after := by
  induction values generalizing session with
  | nil => exact ⟨session, rfl, .refl _⟩
  | cons value rest ih =>
    obtain ⟨next, first, frames⟩ := registers ready value
    obtain ⟨after, others, later⟩ := ih (frames.ready ready)
    refine ⟨after, ?_, frames.trans later⟩
    rw [List.foldlM_cons, first]
    exact others

/-- The artifacts of a module are added behind those that it has, each read from its root. -/
theorem Ready.registerArtifacts (entries : List ArtifactEntry) :
    ∃ after, entries.foldlM (fun session artifact =>
        session.registerArtifact moduleKey artifact.kind artifact.path) session = .ok after ∧
      after.Ready moduleKey module ∧ after.modules = session.modules ∧
      after.artifacts.of moduleKey = session.artifacts.of moduleKey ++
        entries.map fun artifact => ⟨moduleKey, artifact.kind, module.root.join artifact.path⟩ := by
  induction entries generalizing session with
  | nil => exact ⟨session, rfl, ready, rfl, by simp⟩
  | cons artifact rest ih =>
    have registers : session.registerArtifact moduleKey artifact.kind artifact.path =
        .ok { session with
          artifacts := session.artifacts.push moduleKey
            ⟨moduleKey, artifact.kind, module.root.join artifact.path⟩ } := by
      simp only [Session.registerArtifact, checkCollecting_of_collecting ready.collecting,
        module_of_known ready.known]
      rfl
    have pushed : Session.Ready
        { session with
          artifacts := session.artifacts.push moduleKey
            ⟨moduleKey, artifact.kind, module.root.join artifact.path⟩ } moduleKey module :=
      ⟨ready.collecting, ready.known⟩
    obtain ⟨after, others, still, modules, artifacts⟩ := ih pushed
    refine ⟨after, ?_, still, modules, ?_⟩
    · rw [List.foldlM_cons, registers]
      exact others
    · rw [artifacts, Facts.of_push_self, List.map_cons, List.append_assoc, List.singleton_append]

end Ready

theorem registerModule_ready {session : Session} (collecting : session.phase = .collecting)
    (module : Module) :
    ∃ answer after, session.registerModule module = .ok (answer, after) ∧
      after.Ready module.key ((session.modules.get? module.key).getD module) ∧
      after.artifacts = session.artifacts := by
  have known : (session.modules.register module).2.get? module.key =
      some ((session.modules.get? module.key).getD module) := by
    rw [ModuleTable.snd_register, KeyMap.get?_update_self]
  simp only [registerModule, checkCollecting_of_collecting collecting, bind, Except.bind]
  generalize session.modules.register module = outcome at known ⊢
  obtain ⟨answer, modules⟩ := outcome
  cases answer with
  | new => exact ⟨_, _, rfl, ⟨collecting, known⟩, rfl⟩
  | unchanged => exact ⟨_, _, rfl, ⟨collecting, known⟩, rfl⟩
  | conflicting kept => exact ⟨_, _, rfl, ⟨collecting, known⟩, rfl⟩

/-- Scanning a module while collecting goes through. Its artifacts are read from the root of the
module that is registered under its key, which is another one if it came first. -/
theorem scanModule_of_collecting {session : Session} (collecting : session.phase = .collecting)
    (settings : ScannerSettings) (disk : Disk) (entry : ModuleEntry) :
    ∃ scan after, session.scanModule settings disk entry = .ok (scan, after) ∧
      after.Ready entry.key ((session.modules.get? entry.key).getD entry.module) ∧
      after.artifacts.of entry.key = session.artifacts.of entry.key ++
        entry.artifacts.map fun artifact => ⟨entry.key, artifact.kind,
          ((session.modules.get? entry.key).getD entry.module).root.join artifact.path⟩ := by
  obtain ⟨answer, named, registers, ready, before⟩ :=
    registerModule_ready collecting entry.module
  have own : entry.module.key = entry.key := rfl
  rw [own] at ready
  obtain ⟨registered, excluded, filed, files, fileFrames⟩ :=
    ready.registerFiles disk (entry.sourceFiles settings disk)
  obtain ⟨collected, artifacts, still, -, added⟩ :=
    (fileFrames.ready ready).registerArtifacts entry.artifacts
  obtain ⟨told, telemetry, telemetryFrames⟩ := still.foldlM
    (fun ready (pair : String × String) => ready.registerTelemetry ⟨pair.1, pair.2⟩)
    entry.telemetry.entries
  obtain ⟨documented, documents, documentFrames⟩ := (telemetryFrames.ready still).foldlM
    (fun ready document => ready.registerDocument document) entry.documents
  have documentsReady := documentFrames.ready (telemetryFrames.ready still)
  obtain ⟨after, methods, methodFrames⟩ := documentsReady.foldlM
    (fun ready method => ready.registerMethod method) entry.methods
  have later := (telemetryFrames.trans documentFrames).trans methodFrames
  refine ⟨⟨entry.key, registered, excluded, entry.artifacts.length⟩, after, ?_,
    later.ready still, ?_⟩
  · simp only [scanModule, registers, files, artifacts, telemetry, documents, methods, bind,
      Except.bind]
    rfl
  · rw [later.artifacts, added, fileFrames.artifacts, before]

end Session

namespace Manifest

/-- The module that a scanned module of a manifest is read as: the one that came first under its
key, or else the module itself with its root read from the directory of the manifest. -/
def keptModule (session : Session) (path : Path) (entry : ModuleEntry) : Module :=
  (session.modules.get? entry.key).getD (resolveModule (directory path) entry).module

/-- Where a scan registers an artifact that a manifest lists for a module. -/
def registeredPath (session : Session) (path : Path) (entry : ModuleEntry)
    (artifact : ArtifactEntry) : Path :=
  (keptModule session path entry).root.join ((directory path).join artifact.path)

/-- A loaded manifest can be scanned, and what is registered for an artifact leads into the
directory of the manifest exactly when the artifact or the manifest is given by an absolute path, or
the module has the working directory as its root. Otherwise the root is read as well. -/
theorem load_registers {disk : Disk} {path : Path} {text : List Char} {manifest : Manifest}
    (read : disk.readText path = .ok text) (parsed : parse text = .ok manifest)
    {session : Session} (collecting : session.phase = .collecting) (settings : ScannerSettings) :
    load disk path = .ok ⟨manifest.modules.map (resolveModule (directory path))⟩ ∧
      ∀ entry ∈ manifest.modules, ∃ scan after,
        session.scanModule settings disk (resolveModule (directory path) entry) =
          .ok (scan, after) ∧
        after.artifacts.of entry.key = session.artifacts.of entry.key ++
          entry.artifacts.map (fun artifact =>
            ⟨entry.key, artifact.kind, registeredPath session path entry artifact⟩) ∧
        ∀ artifact ∈ entry.artifacts,
          (disk.absolute (registeredPath session path entry artifact)).same
              (disk.absolute ((directory path).join artifact.path)) = true ↔
            artifact.path.isAbsolute = true ∨ path.isAbsolute = true ∨
              (disk.absolute (keptModule session path entry).root).same disk.working.path =
                true := by
  constructor
  · simp only [load, read, parsed]
  · intro entry listed
    obtain ⟨scan, after, scans, -, artifacts⟩ := Session.scanModule_of_collecting collecting
      settings disk (resolveModule (directory path) entry)
    refine ⟨scan, after, scans, ?_, ?_⟩
    · simp only [resolveModule, List.map_map] at artifacts
      exact artifacts
    · intro artifact member
      rw [registeredPath, Disk.absolute_join_same, Path.isAbsolute_join, isAbsolute_directory read,
        Bool.or_eq_true, or_assoc]

/-- A manifest that lists a report for a module below its directory. Its records are written as
lists. -/
def listingText : List Char :=
  "[[[\"App\",\"s\",\"main\",null,[[\"roslyn\",\"t\"]]]]]".toList

def listedModule : ModuleEntry :=
  { key := "App"
    root := ⟨[0x73]⟩
    projectType := .main
    artifacts := [⟨.roslyn, ⟨[0x74]⟩⟩] }

/-- A disk with the manifest in the working directory. -/
def listingDisk : Disk :=
  Disk.empty.putFile [] [0x6D] (Text.Utf8.encode listingText)

/-- The report `t` of a manifest that is given by a relative path is registered as `s/t`, which does
not lead to `t`. -/
theorem load_registers_below_root :
    ∃ scan after,
      (Session.ofSettings {}).scanModule {} listingDisk
        (resolveModule (directory ⟨[0x6D]⟩) listedModule) = .ok (scan, after) ∧
      after.artifacts.of "App" = [⟨"App", .roslyn, ⟨[0x73, 0x2F, 0x74]⟩⟩] ∧
      (listingDisk.absolute ⟨[0x73, 0x2F, 0x74]⟩).same
        (listingDisk.absolute ((directory ⟨[0x6D]⟩).join ⟨[0x74]⟩)) = false := by
  have opened : listingDisk.openAt ⟨[0x6D]⟩ = .ok [[0x6D]] := rfl
  have content : listingDisk.read ⟨[0x6D]⟩ = .ok (Text.Utf8.encode listingText) := by
    simp only [Disk.read, Disk.entry, opened]
    rfl
  have decoded : Text.Utf8.decode? (Text.Utf8.encode listingText) = some listingText := by
    decide +kernel
  have read : listingDisk.readText ⟨[0x6D]⟩ = .ok listingText := by
    rw [Disk.readText, content]
    simp only [bind, Except.bind, decoded]
  have parsed : parse listingText = .ok ⟨[listedModule]⟩ := by decide +kernel
  have collecting : (Session.ofSettings {}).phase = .collecting := rfl
  obtain ⟨-, scanned⟩ := load_registers read parsed collecting {}
  obtain ⟨scan, after, scans, artifacts, leads⟩ :=
    scanned listedModule (List.mem_singleton_self _)
  have here : directory ⟨[0x6D]⟩ = ⟨[]⟩ := by decide +kernel
  have absent : (Session.ofSettings {}).modules.get? listedModule.key = none := rfl
  have kept : keptModule (Session.ofSettings {}) ⟨[0x6D]⟩ listedModule =
      ⟨"App", ⟨[0x73]⟩, .main⟩ := by
    rw [keptModule, absent, here]
    rfl
  have registered : registeredPath (Session.ofSettings {}) ⟨[0x6D]⟩ listedModule
      ⟨.roslyn, ⟨[0x74]⟩⟩ = ⟨[0x73, 0x2F, 0x74]⟩ := by
    rw [registeredPath, kept, here]
    rfl
  have apart := leads ⟨.roslyn, ⟨[0x74]⟩⟩ (List.mem_singleton_self _)
  have elsewhere : (listingDisk.absolute ⟨[0x73]⟩).same listingDisk.working.path = false := by
    decide +kernel
  rw [registered, kept, elsewhere] at apart
  refine ⟨scan, after, scans, ?_, ?_⟩
  · have nothing : (Session.ofSettings {}).artifacts.of listedModule.key = [] := rfl
    rw [nothing, List.nil_append] at artifacts
    have listed := congrArg (fun path => [Artifact.mk "App" .roslyn path]) registered
    exact artifacts.trans listed
  · rw [Bool.eq_false_iff]
    intro same
    rcases apart.mp same with artifactAbsolute | manifestAbsolute | rooted
    · cases artifactAbsolute
    · cases manifestAbsolute
    · cases rooted

end Manifest

end ScanMerge
