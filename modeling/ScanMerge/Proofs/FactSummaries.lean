import ScanMerge.Proofs.AcceptedRegistrations
import ScanMerge.Proofs.DocumentLeaves
import ScanMerge.Proofs.ModuleReferences
import ScanMerge.Proofs.Repetitions

/-!
What collected facts come to. The summary of registrations depends on the sets of their facts alone:
telemetry values and documents of any modules, and methods of each module. A session holds the
summary of what it accepted.
-/

set_option autoImplicit false

namespace ScanMerge

namespace Facts

variable {α : Type}

theorem ofPushes_append_singleton (registered : List (String × α)) (last : String × α) :
    ofPushes (registered ++ [last]) = (ofPushes registered).push last.1 last.2 := by
  rw [ofPushes, List.foldl_append]
  rfl

theorem ofPushes_filterMap_append {β : Type} (read : β → Option (String × α)) (values : List β)
    (last : β) :
    ofPushes ((values ++ [last]).filterMap read) =
      (read last).elim (ofPushes (values.filterMap read)) fun fact =>
        (ofPushes (values.filterMap read)).push fact.1 fact.2 := by
  rw [List.filterMap_append]
  cases found : read last with
  | none =>
    rw [List.filterMap_cons_none found, List.filterMap_nil, List.append_nil, Option.elim_none]
  | some fact =>
    rw [List.filterMap_cons_some found, List.filterMap_nil, ofPushes_append_singleton,
      Option.elim_some]

theorem mem_keys_ofPushes {registered : List (String × α)} {moduleKey : String} :
    moduleKey ∈ (ofPushes registered).keys ↔ ∃ fact, (moduleKey, fact) ∈ registered := by
  induction registered using List.reverseRecOn with
  | nil => simp [ofPushes, KeyMap.keys]
  | append_singleton registered last ih =>
    obtain ⟨other, fact⟩ := last
    rw [ofPushes_append_singleton, mem_keys_push, ih]
    simp only [List.mem_append, List.mem_singleton, Prod.mk.injEq]
    constructor
    · rintro (rfl | ⟨value, member⟩)
      · exact ⟨fact, .inr ⟨rfl, rfl⟩⟩
      · exact ⟨value, .inl member⟩
    · rintro ⟨value, member | ⟨own, -⟩⟩
      · exact .inr ⟨value, member⟩
      · exact .inl own

/-- Every fact of a module is one of all facts, whichever module it is. -/
theorem mem_all_ofPushes {registered : List (String × α)} {fact : α} :
    fact ∈ (ofPushes registered).all ↔ ∃ moduleKey, (moduleKey, fact) ∈ registered := by
  simp only [mem_all, mem_of_ofPushes]

end Facts

namespace Registration

/-- The telemetry value that is registered, with its module. -/
def telemetryValue? : Registration → Option (String × TelemetryEntry)
  | .telemetry moduleKey entry => some (moduleKey, entry)
  | _ => none

/-- The telemetry document that is registered, with its module. -/
def document? : Registration → Option (String × Json)
  | .document moduleKey registered => some (moduleKey, registered)
  | _ => none

/-- The method that is registered, with its module. -/
def method? : Registration → Option (String × MethodDeclaration)
  | .method moduleKey registered => some (moduleKey, registered)
  | _ => none

/-- A reader finds the registrations that are made as it reads them. -/
theorem mem_filterMap_iff {α : Type} {read : Registration → Option (String × α)}
    {make : String → α → Registration}
    (reads : ∀ registration moduleKey fact,
      read registration = some (moduleKey, fact) ↔ registration = make moduleKey fact)
    {registered : List Registration} {moduleKey : String} {fact : α} :
    (moduleKey, fact) ∈ registered.filterMap read ↔ make moduleKey fact ∈ registered := by
  simp only [List.mem_filterMap, reads, exists_eq_right]

variable {registered : List Registration} {moduleKey : String}

theorem mem_filterMap_telemetryValue? {entry : TelemetryEntry} :
    (moduleKey, entry) ∈ registered.filterMap telemetryValue? ↔
      Registration.telemetry moduleKey entry ∈ registered := by
  apply mem_filterMap_iff
  intro registration moduleKey entry
  cases registration <;> simp [telemetryValue?]

theorem mem_filterMap_document? {json : Json} :
    (moduleKey, json) ∈ registered.filterMap document? ↔
      Registration.document moduleKey json ∈ registered := by
  apply mem_filterMap_iff
  intro registration moduleKey json
  cases registration <;> simp [document?]

theorem mem_filterMap_method? {declared : MethodDeclaration} :
    (moduleKey, declared) ∈ registered.filterMap method? ↔
      Registration.method moduleKey declared ∈ registered := by
  apply mem_filterMap_iff
  intro registration moduleKey declared
  cases registration <;> simp [method?]

end Registration

/-! ### Summaries -/

/-- What facts come to: the table of the telemetry values, the table of the leaves of the documents,
and the methods of each module. -/
structure FactSummary where
  telemetry : TelemetryTable
  documents : TelemetryTable
  methods : List ModuleMethods

namespace FactSummary

def ofFacts (projectType : String → ProjectType) (telemetry : Facts TelemetryEntry)
    (documents : Facts Json) (methods : Facts MethodDeclaration) : FactSummary where
  telemetry := .ofEntries telemetry
  documents := .ofDocuments documents
  methods := ModuleMethods.ofFacts projectType methods

/-- The summary of the facts that are registered one after the other. -/
def ofRegistrations (projectType : String → ProjectType) (registered : List Registration) :
    FactSummary :=
  ofFacts projectType (.ofPushes (registered.filterMap Registration.telemetryValue?))
    (.ofPushes (registered.filterMap Registration.document?))
    (.ofPushes (registered.filterMap Registration.method?))

def ofSession (projectType : String → ProjectType) (session : Session) : FactSummary :=
  ofFacts projectType session.telemetry session.documents session.methods

/-- The methods that registrations declare, listed by module. -/
structure ListsMethods (projectType : String → ProjectType) (registered : List Registration)
    (listed : List ModuleMethods) : Prop where
  /-- A module is listed once, behind those with lesser keys. -/
  ascending : (listed.map ModuleMethods.moduleKey).Pairwise (· < ·)
  modules : ∀ moduleKey, moduleKey ∈ listed.map ModuleMethods.moduleKey ↔
    ∃ method, .method moduleKey method ∈ registered
  methods : ∀ entry ∈ listed, ∀ method, method ∈ entry.methods ↔
    .method entry.moduleKey method ∈ registered
  increasing : ∀ entry ∈ listed, MethodDeclaration.Ascending entry.methods
  projectTypes : ∀ entry ∈ listed, entry.projectType = projectType entry.moduleKey

/-- The summary says what was registered, ascending, and nothing else. -/
structure Summarizes (projectType : String → ProjectType) (registered : List Registration)
    (summary : FactSummary) : Prop where
  telemetry : ∀ key value, summary.telemetry.Lists key value ↔
    ∃ moduleKey, .telemetry moduleKey ⟨key, value⟩ ∈ registered
  telemetryAscends : summary.telemetry.Ascends
  documents : ∀ key value, summary.documents.Lists key value ↔
    ∃ moduleKey document, .document moduleKey document ∈ registered ∧
      (key, value) ∈ TelemetryTable.documentPairs document
  documentsAscend : summary.documents.Ascends
  methods : ListsMethods projectType registered summary.methods

section Registrations

variable (projectType : String → ProjectType) (registered : List Registration)

theorem lists_telemetry_ofRegistrations {key value : String} :
    (ofRegistrations projectType registered).telemetry.Lists key value ↔
      ∃ moduleKey, .telemetry moduleKey ⟨key, value⟩ ∈ registered := by
  rw [ofRegistrations, ofFacts, TelemetryTable.lists_ofEntries, Facts.mem_all_ofPushes]
  simp only [Registration.mem_filterMap_telemetryValue?]

theorem lists_documents_ofRegistrations {key value : String} :
    (ofRegistrations projectType registered).documents.Lists key value ↔
      ∃ moduleKey document, .document moduleKey document ∈ registered ∧
        (key, value) ∈ TelemetryTable.documentPairs document := by
  rw [ofRegistrations, ofFacts, TelemetryTable.lists_documentPairs]
  simp only [Facts.mem_all_ofPushes, Registration.mem_filterMap_document?]
  constructor
  · rintro ⟨document, ⟨moduleKey, member⟩, leaf⟩
    exact ⟨moduleKey, document, member, leaf⟩
  · rintro ⟨moduleKey, document, member, leaf⟩
    exact ⟨document, ⟨moduleKey, member⟩, leaf⟩

theorem listsMethods_ofRegistrations :
    ListsMethods projectType registered (ofRegistrations projectType registered).methods := by
  have keys : (ofRegistrations projectType registered).methods.map ModuleMethods.moduleKey =
      (Facts.ofPushes (registered.filterMap Registration.method?)).keys := by
    rw [ofRegistrations, ofFacts, ModuleMethods.ofFacts, List.map_map]
    rfl
  have listed : ∀ entry ∈ (ofRegistrations projectType registered).methods,
      entry.projectType = projectType entry.moduleKey ∧ entry.methods = MethodDeclaration.distinct
        ((Facts.ofPushes (registered.filterMap Registration.method?)).of entry.moduleKey) := by
    intro entry member
    rw [ofRegistrations, ofFacts, ModuleMethods.ofFacts, Facts.entries_eq, List.map_map] at member
    obtain ⟨moduleKey, -, rfl⟩ := List.mem_map.mp member
    exact ⟨rfl, rfl⟩
  constructor
  case ascending =>
    rw [keys]
    exact KeyMap.ascending_keys _
  case modules =>
    intro moduleKey
    rw [keys, Facts.mem_keys_ofPushes]
    simp only [Registration.mem_filterMap_method?]
  case methods =>
    intro entry member method
    rw [(listed entry member).2, MethodDeclaration.mem_distinct, Facts.mem_of_ofPushes,
      Registration.mem_filterMap_method?]
  case increasing =>
    intro entry member
    rw [(listed entry member).2]
    exact MethodDeclaration.ascending_distinct _
  case projectTypes => exact fun entry member => (listed entry member).1

theorem summarizes_ofRegistrations :
    Summarizes projectType registered (ofRegistrations projectType registered) where
  telemetry _ _ := lists_telemetry_ofRegistrations projectType registered
  telemetryAscends := TelemetryTable.ascends_ofPairs _
  documents _ _ := lists_documents_ofRegistrations projectType registered
  documentsAscend := TelemetryTable.ascends_ofPairs _
  methods := listsMethods_ofRegistrations projectType registered

end Registrations

/-- The registrations bring the same facts: telemetry values and documents for whatever modules, and
methods for the same ones. -/
structure SameFacts (left right : List Registration) : Prop where
  telemetry : ∀ entry, (∃ moduleKey, .telemetry moduleKey entry ∈ left) ↔
    ∃ moduleKey, .telemetry moduleKey entry ∈ right
  documents : ∀ document, (∃ moduleKey, .document moduleKey document ∈ left) ↔
    ∃ moduleKey, .document moduleKey document ∈ right
  methods : ∀ moduleKey method, .method moduleKey method ∈ left ↔ .method moduleKey method ∈ right

theorem SameFacts.ofRegistrations_eq {left right : List Registration} (same : SameFacts left right)
    (projectType : String → ProjectType) :
    ofRegistrations projectType left = ofRegistrations projectType right := by
  have first := summarizes_ofRegistrations projectType left
  have second := summarizes_ofRegistrations projectType right
  have telemetry : (ofRegistrations projectType left).telemetry =
      (ofRegistrations projectType right).telemetry := by
    refine first.telemetryAscends.eq_of_lists second.telemetryAscends fun key value => ?_
    rw [first.telemetry, second.telemetry, same.telemetry]
  have documents : (ofRegistrations projectType left).documents =
      (ofRegistrations projectType right).documents := by
    refine first.documentsAscend.eq_of_lists second.documentsAscend fun key value => ?_
    rw [first.documents, second.documents, exists_comm, exists_comm (α := String)]
    simp only [exists_and_right, same.documents]
  rw [ofRegistrations, ofRegistrations, ofFacts, ofFacts, FactSummary.mk.injEq]
  refine ⟨telemetry, documents, ModuleMethods.ofFacts_congr ?_ ?_ projectType⟩
  · apply eq_of_ascending (fun _ _ => String.lt_asymm) (KeyMap.ascending_keys _)
      (KeyMap.ascending_keys _)
    intro moduleKey
    simp only [Facts.mem_keys_ofPushes, Registration.mem_filterMap_method?, same.methods]
  · intro moduleKey method
    rw [Facts.mem_of_ofPushes, Facts.mem_of_ofPushes, Registration.mem_filterMap_method?,
      Registration.mem_filterMap_method?]
    exact same.methods moduleKey method

end FactSummary

/-! ### Sessions -/

namespace Session

/-- The facts of the session are those of the registrations, in their order. -/
structure HoldsFacts (session : Session) (accepted : List Registration) : Prop where
  telemetry : session.telemetry = .ofPushes (accepted.filterMap Registration.telemetryValue?)
  documents : session.documents = .ofPushes (accepted.filterMap Registration.document?)
  methods : session.methods = .ofPushes (accepted.filterMap Registration.method?)

theorem HoldsFacts.register {session after : Session} {accepted : List Registration}
    (holds : session.HoldsFacts accepted) {disk : Disk} {registration : Registration}
    {answer : Registration.Answer}
    (registered : session.register disk registration = .ok (answer, after)) :
    after.HoldsFacts (accepted ++ [registration]) := by
  have registers := session.registers disk registration
  rw [registered] at registers
  -- Each sort of registration pushes to the facts that it is read as, and to no others.
  constructor
  case telemetry =>
    rw [Facts.ofPushes_filterMap_append, ← holds.telemetry]
    cases registers <;> rfl
  case documents =>
    rw [Facts.ofPushes_filterMap_append, ← holds.documents]
    cases registers <;> rfl
  case methods =>
    rw [Facts.ofPushes_filterMap_append, ← holds.methods]
    cases registers <;> rfl

end Session

theorem Aggregation.run_holdsFacts (settings : Settings) (registry : Registry)
    (calls : List (Disk × Call)) :
    ((start settings registry).run calls).session.HoldsFacts
      (acceptedRegistrations ((start settings registry).history calls)) := by
  apply run_accepted
  case anyPhase =>
    intro session phase accepted holds
    exact ⟨holds.telemetry, holds.documents, holds.methods⟩
  case register =>
    intro session disk registration answer after accepted holds registered
    exact holds.register registered
  case begins => exact ⟨rfl, rfl, rfl⟩

namespace FactSummary

/-- The summary of registrations says which facts were registered, and registrations of the same
facts have the same summary, in whatever order and however often they come. A run has the summary of
what it accepted. -/
theorem depends_on_facts (projectType : String → ProjectType) :
    (∀ registered, Summarizes projectType registered (ofRegistrations projectType registered)) ∧
    (∀ left right, SameFacts left right →
      ofRegistrations projectType left = ofRegistrations projectType right) ∧
    ∀ settings registry calls,
      ofSession projectType ((Aggregation.start settings registry).run calls).session =
        ofRegistrations projectType
          (acceptedRegistrations ((Aggregation.start settings registry).history calls)) := by
  refine ⟨summarizes_ofRegistrations projectType,
    fun left right same => same.ofRegistrations_eq projectType, ?_⟩
  intro settings registry calls
  have holds := Aggregation.run_holdsFacts settings registry calls
  rw [ofSession, holds.telemetry, holds.documents, holds.methods]
  rfl

/-- Facts of a module, each registered once. -/
def factsOnce : List Registration :=
  [.telemetry "App" ⟨"sdk", "8.0"⟩, .document "App" (.object [("ci", .bool true)]),
    .method "App" ⟨"App.vb", "App", "Main"⟩, .method "App" ⟨"App.vb", "App", "Run"⟩]

/-- The same facts in another order, some of them twice, and telemetry of another module. -/
def factsAgain : List Registration :=
  [.method "App" ⟨"App.vb", "App", "Run"⟩, .telemetry "Lib" ⟨"sdk", "8.0"⟩,
    .document "Lib" (.object [("ci", .bool true)]), .telemetry "App" ⟨"sdk", "8.0"⟩,
    .method "App" ⟨"App.vb", "App", "Main"⟩, .method "App" ⟨"App.vb", "App", "Run"⟩]

/-- Both have one summary, with the two methods in their order. -/
theorem depends_on_facts_again :
    SameFacts factsOnce factsAgain ∧
      ofRegistrations (fun _ => .main) factsOnce = ofRegistrations (fun _ => .main) factsAgain ∧
      (ofRegistrations (fun _ => .main) factsAgain).methods =
        [⟨"App", .main, [⟨"App.vb", "App", "Main"⟩, ⟨"App.vb", "App", "Run"⟩]⟩] := by
  have same : SameFacts factsOnce factsAgain := by
    constructor
    case telemetry =>
      intro entry
      have some : (∃ moduleKey : String, moduleKey = "Lib" ∨ moduleKey = "App") := ⟨_, .inl rfl⟩
      simp [factsOnce, factsAgain, ← or_and_right, some]
    case documents =>
      intro document
      simp [factsOnce, factsAgain]
    case methods =>
      intro moduleKey method
      simp only [factsOnce, factsAgain, List.mem_cons, List.not_mem_nil, reduceCtorEq, or_false,
        false_or]
      tauto
  exact ⟨same, (depends_on_facts fun _ => .main).2.1 _ _ same, by decide⟩

end FactSummary

end ScanMerge
