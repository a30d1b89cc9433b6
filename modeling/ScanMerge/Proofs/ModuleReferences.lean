import ScanMerge.Proofs.RecordedDigests

/-!
References to modules. Whatever a session holds is held for modules that are registered, and the
module under a key stays as it was registered first.
-/

set_option autoImplicit false

namespace ScanMerge

namespace Facts

variable {α : Type} {facts : Facts α} {moduleKey : String} {fact : α}

theorem mem_keys_push {key : String} :
    key ∈ (facts.push moduleKey fact).keys ↔ key = moduleKey ∨ key ∈ facts.keys := by
  rw [KeyMap.mem_keys, KeyMap.mem_keys, push]
  by_cases own : key = moduleKey
  · subst own
    simp
  · simp [KeyMap.get?_update_of_ne facts own, own]

theorem mem_all_push {other : α} :
    other ∈ (facts.push moduleKey fact).all ↔ other = fact ∨ other ∈ facts.all := by
  simp only [mem_all, mem_of_push]
  constructor
  · rintro ⟨key, ⟨-, same⟩ | member⟩
    · exact .inl same
    · exact .inr ⟨key, member⟩
  · rintro (same | ⟨key, member⟩)
    · exact ⟨moduleKey, .inl ⟨rfl, same⟩⟩
    · exact ⟨key, .inr member⟩

end Facts

/-- The module under a key stays when modules are registered. -/
theorem ModuleTable.get?_register_of_some {table : ModuleTable} {key : String} {module : Module}
    (present : table.get? key = some module) (registered : Module) :
    (table.register registered).2.get? key = some module := by
  rw [snd_register]
  by_cases own : key = registered.key
  · subst own
    rw [KeyMap.get?_update_self, present, Option.getD_some]
  · rw [KeyMap.get?_update_of_ne table own, present]

/-- The modules that records and conflicts name have the property. -/
structure FileIndex.Names (index : FileIndex) (property : String → Prop) : Prop where
  records : ∀ record ∈ index.records, property record.moduleKey
  conflicts : ∀ conflict ∈ index.conflicts,
    property conflict.keptModule ∧ property conflict.rejectedModule

namespace FileIndex

variable {index : FileIndex} {property : String → Prop}

theorem Names.mono {wider : String → Prop} (names : index.Names property)
    (grows : ∀ key, property key → wider key) : index.Names wider where
  records record member := grows _ (names.records record member)
  conflicts conflict member :=
    ⟨grows _ (names.conflicts conflict member).1, grows _ (names.conflicts conflict member).2⟩

theorem Names.registerContent (names : index.Names property) (agrees : index.Agrees)
    {moduleKey : String} (own : property moduleKey) (path : Path) (content : List UInt8) :
    (index.registerContent moduleKey path content).2.Names property := by
  cases found : index.find? path with
  | none =>
    rw [agrees.registerContent_of_absent moduleKey found]
    refine ⟨?_, names.conflicts⟩
    intro record member
    rcases mem_insertRecord.mp member with rfl | member
    · exact own
    · exact names.records record member
  | some record =>
    by_cases same : record.hash = digest content
    · rw [agrees.registerContent_of_same moduleKey found same]
      exact names
    · rw [agrees.registerContent_of_different moduleKey found same]
      refine ⟨names.records, ?_⟩
      intro conflict member
      rcases List.mem_append.mp member with member | member
      · exact names.conflicts conflict member
      · rw [List.mem_singleton.mp member]
        exact ⟨names.records record (List.mem_of_find?_eq_some found), own⟩

end FileIndex

namespace Session

/-- A module is registered under the key. -/
def Knows (session : Session) (moduleKey : String) : Prop :=
  (session.modules.get? moduleKey).isSome = true

/-- Whatever the session holds is held for a registered module. -/
structure Referential (session : Session) : Prop where
  artifacts : ∀ artifact ∈ session.artifacts.all, session.Knows artifact.moduleKey
  artifactKeys : ∀ key ∈ session.artifacts.keys, session.Knows key
  methods : ∀ key ∈ session.methods.keys, session.Knows key
  telemetry : ∀ key ∈ session.telemetry.keys, session.Knows key
  documents : ∀ key ∈ session.documents.keys, session.Knows key
  files : session.files.Names session.Knows

theorem referential_ofSettings (settings : Settings) : (ofSettings settings).Referential where
  artifacts _ member := absurd member List.not_mem_nil
  artifactKeys _ member := absurd member List.not_mem_nil
  methods _ member := absurd member List.not_mem_nil
  telemetry _ member := absurd member List.not_mem_nil
  documents _ member := absurd member List.not_mem_nil
  files := ⟨fun _ member => absurd member List.not_mem_nil,
    fun _ member => absurd member List.not_mem_nil⟩

theorem knows_of_get? {session : Session} {moduleKey : String} {module : Module}
    (known : session.modules.get? moduleKey = some module) : session.Knows moduleKey := by
  rw [Knows, known]
  rfl

/-- Keys of facts stay registered when a registered module has one more fact. -/
theorem knows_push {session : Session} {α : Type} {facts : Facts α} {moduleKey : String}
    (own : session.Knows moduleKey) (others : ∀ key ∈ facts.keys, session.Knows key) {fact : α} :
    ∀ key ∈ (facts.push moduleKey fact).keys, session.Knows key := by
  intro key member
  rcases Facts.mem_keys_push.mp member with rfl | member
  · exact own
  · exact others key member

variable {session : Session}

theorem Referential.registerModule (referential : session.Referential) (registered : Module)
    (warnings : List Warning) :
    ({ session with
      modules := (session.modules.register registered).2
      warnings } : Session).Referential := by
  have grows : ∀ key, session.Knows key →
      ({ session with
        modules := (session.modules.register registered).2
        warnings } : Session).Knows key := by
    intro key known
    obtain ⟨module, present⟩ := Option.isSome_iff_exists.mp known
    exact knows_of_get? (ModuleTable.get?_register_of_some present registered)
  exact
    { artifacts := fun artifact member => grows _ (referential.artifacts artifact member)
      artifactKeys := fun key member => grows _ (referential.artifactKeys key member)
      methods := fun key member => grows _ (referential.methods key member)
      telemetry := fun key member => grows _ (referential.telemetry key member)
      documents := fun key member => grows _ (referential.documents key member)
      files := referential.files.mono grows }

theorem Referential.registering (referential : session.Referential)
    (agrees : session.files.Agrees) (disk : Disk) (registration : Registration) :
    (session.registering disk registration).Referential := by
  have registers := session.registers disk registration
  rw [Session.registering]
  generalize session.register disk registration = outcome at registers ⊢
  cases registers with
  | left | unknown => exact referential
  | module collecting registered => exact referential.registerModule registered _
  | artifact collecting known kind path =>
    have own := knows_of_get? known
    refine { referential with artifacts := ?_, artifactKeys := ?_ }
    · intro artifact member
      rcases Facts.mem_all_push.mp member with rfl | member
      · exact own
      · exact referential.artifacts artifact member
    · exact knows_push own referential.artifactKeys
  | unreadable collecting known unreadable => exact { referential with }
  | file collecting known readable =>
    obtain ⟨source, -, registered⟩ := FileIndex.source_of_register_ok readable
    have names := referential.files.registerContent agrees (knows_of_get? known) source.path
      source.content
    rw [registered] at names
    exact { referential with files := names }
  | method collecting known method =>
    exact { referential with methods := knows_push (knows_of_get? known) referential.methods }
  | telemetry collecting known entry =>
    exact { referential with telemetry := knows_push (knows_of_get? known) referential.telemetry }
  | document collecting known document =>
    exact { referential with documents := knows_push (knows_of_get? known) referential.documents }

theorem get?_registering_of_some {key : String} {module : Module}
    (present : session.modules.get? key = some module) (disk : Disk)
    (registration : Registration) :
    (session.registering disk registration).modules.get? key = some module := by
  have registers := session.registers disk registration
  rw [Session.registering]
  generalize session.register disk registration = outcome at registers ⊢
  cases registers with
  | module collecting registered => exact ModuleTable.get?_register_of_some present registered
  | left | unknown | artifact | unreadable | file | method | telemetry | document => exact present

end Session

/-- What is held refers to registered modules, and records and digests agree. -/
def Session.Sound (session : Session) : Prop :=
  session.Referential ∧ session.files.Agrees

namespace Session

theorem sound_ofSettings (settings : Settings) : (ofSettings settings).Sound :=
  ⟨referential_ofSettings settings, FileIndex.agrees_ofSettings settings⟩

theorem Sound.anyPhase {session : Session} (sound : session.Sound) (phase : Phase) :
    ({ session with phase } : Session).Sound :=
  ⟨{ sound.1 with }, sound.2⟩

theorem Sound.registering {session : Session} (sound : session.Sound) (disk : Disk)
    (registration : Registration) : (session.registering disk registration).Sound :=
  ⟨sound.1.registering sound.2 disk registration,
    agrees_registering sound.2 disk registration⟩

end Session

theorem Step.Genuine.sound {step : Step} (genuine : step.Genuine)
    (sound : step.before.session.Sound) : step.after.session.Sound :=
  genuine.keeps (fun _ phase sound => sound.anyPhase phase)
    (fun _ disk registration sound => sound.registering disk registration) sound

/-- A module that is registered stays as it is, whatever is called. -/
theorem Aggregation.module_run {aggregation : Aggregation} {key : String} {module : Module}
    (present : aggregation.session.modules.get? key = some module)
    (calls : List (Disk × Call)) :
    (aggregation.run calls).session.modules.get? key = some module :=
  run_keeps (P := fun session => session.modules.get? key = some module)
    (fun _ _ present => present)
    (fun _ disk registration present =>
      Session.get?_registering_of_some present disk registration)
    present calls

end ScanMerge
