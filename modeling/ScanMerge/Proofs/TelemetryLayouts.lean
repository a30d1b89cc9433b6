import ScanMerge.Import.Registry
import ScanMerge.Proofs.JsonTexts

/-!
Layouts of telemetry. Events may stand one after the other or in arrays of any length, with any
blanks between the tokens. What is imported of them depends on the events and their order alone.
-/

set_option autoImplicit false

namespace ScanMerge.Telemetry

open Text.Utf8 (encode)

/-! ### Events -/

def eventFindings (moduleKey : String) (members : List (String × Json)) : List Finding :=
  (entries members).map fun entry => .telemetry moduleKey entry.1 entry.2

/-- The first event of a version that is not understood is the only one that matters, if there is
any. -/
theorem findingsFrom_objects (moduleKey : String) (number : Nat)
    (objects : List (List (String × Json))) :
    findingsFrom moduleKey number (objects.map .object) =
      match objects.findSome? futureSchema? with
      | some version => .error (.unsupportedVersion (toString version))
      | none => .ok (objects.flatMap (eventFindings moduleKey)) := by
  induction objects generalizing number with
  | nil => rfl
  | cons members rest ih =>
    rw [List.map_cons, findingsFrom, List.findSome?_cons]
    -- An earlier version wins over a later one, and either one over all findings.
    cases futureSchema? members with
    | some version => rfl
    | none =>
      dsimp only
      rw [ih]
      cases rest.findSome? futureSchema? with
      | some version => rfl
      | none => rw [List.flatMap_cons]; rfl

/-- What is imported of events: all their findings, or the version of the first event that is not
understood. -/
def reported (artifact : Artifact) (objects : List (List (String × Json))) :
    Except ImportError Contribution :=
  match objects.findSome? futureSchema? with
  | some version => .error (.unsupportedVersion .telemetryJson artifact.path (toString version))
  | none => .ok ⟨objects.flatMap (eventFindings artifact.moduleKey), [], []⟩

/-- The input is a text of values that are events or hold them: these ones, in this order. -/
def ReadsEvents (input : List UInt8) (objects : List (List (String × Json))) : Prop :=
  Text.Utf8.fault? input = none ∧
    ∃ values, Json.parseSequence input = .ok values ∧ events values = objects.map .object

theorem ReadsEvents.importBytes_eq {input : List UInt8} {objects : List (List (String × Json))}
    (reads : ReadsEvents input objects) (artifact : Artifact) :
    Importer.telemetry.importBytes artifact input = reported artifact objects := by
  obtain ⟨noFault, values, parsed, same⟩ := reads
  have read : importBytes artifact.moduleKey input =
      (findingsFrom artifact.moduleKey 1 (objects.map .object)).map fun findings =>
        ⟨findings, [], []⟩ := by
    rw [importBytes, noFault]
    dsimp only
    rw [parsed]
    dsimp only
    rw [same]
  rw [Importer.importBytes, read, findingsFrom_objects, reported]
  cases objects.findSome? futureSchema? with
  | some version => rfl
  | none => rfl

/-! ### Groups -/

/-- The values hold the events in order: each is one of them, or an array of some that follow one
another. -/
inductive Groups : List (List (String × Json)) → List Json → Prop where
  | done : Groups [] []
  | event {members : List (String × Json)} {objects : List (List (String × Json))}
      {values : List Json} (rest : Groups objects values) :
      Groups (members :: objects) (.object members :: values)
  | batch {batch objects : List (List (String × Json))} {values : List Json}
      (rest : Groups objects values) :
      Groups (batch ++ objects) (.array (batch.map .object) :: values)

theorem normalItems_objects (objects : List (List (String × Json))) :
    Json.normalItems (objects.map .object) =
      (objects.map (Json.normalMembers [])).map .object := by
  induction objects with
  | nil => rfl
  | cons members rest ih =>
    rw [List.map_cons, Json.normalItems, ih, Json.normal]
    rfl

/-- The events of the values in normal form are the events in normal form. -/
theorem Groups.events_eq {objects : List (List (String × Json))} {values : List Json}
    (groups : Groups objects values) :
    events (Json.normalItems values) = (objects.map (Json.normalMembers [])).map .object := by
  induction groups with
  | done => rfl
  | event rest ih =>
    rw [events] at ih
    rw [events, Json.normalItems, List.flatMap_cons, ih, Json.normal]
    rfl
  | batch rest ih =>
    rw [events] at ih
    rw [events, Json.normalItems, List.flatMap_cons, ih, Json.normal, normalItems_objects,
      List.map_append, List.map_append]

theorem Groups.isDelimited {objects : List (List (String × Json))} {values : List Json}
    (groups : Groups objects values) : ∀ value ∈ values, Json.isDelimited value := by
  induction groups with
  | done => exact nofun
  | event rest ih => exact List.forall_mem_cons.mpr ⟨rfl, ih⟩
  | batch rest ih => exact List.forall_mem_cons.mpr ⟨rfl, ih⟩

/-- An array of events is one level deeper than they are. -/
theorem Groups.fits {allowed : Decimal.Double → Prop} {depth : Nat}
    {objects : List (List (String × Json))} {values : List Json} (groups : Groups objects values)
    (fits : ∀ members ∈ objects, Json.Fits allowed depth (.object members)) :
    ∀ value ∈ values, Json.Fits allowed (depth + 1) value := by
  induction groups with
  | done => exact nofun
  | event rest ih =>
    obtain ⟨first, others⟩ := List.forall_mem_cons.mp fits
    exact List.forall_mem_cons.mpr ⟨first.succ, ih others⟩
  | batch rest ih =>
    obtain ⟨inside, others⟩ := List.forall_mem_append.mp fits
    exact List.forall_mem_cons.mpr
      ⟨.array (List.forall_mem_map.mpr inside), ih others⟩

/-! ### Layouts -/

/-- The text is one of the events: of values that hold them, one after the other. No value is nested
more than 127 levels deep, so events in arrays are nested 126 levels deep at most. -/
def Layout (objects : List (List (String × Json))) (text : List Char) : Prop :=
  ∃ values, Groups objects values ∧ Json.StreamText values text

/-- Events without doubles may be grouped at will, and written without blanks or with a line for
every member. -/
theorem layout_written {objects : List (List (String × Json))} {values : List Json}
    (groups : Groups objects values)
    (fits : ∀ members ∈ objects, Json.Fits (fun _ => False) 126 (.object members)) :
    Layout objects (values.flatMap fun value => value.compactText) ∧
      Layout objects (values.flatMap fun value => '\n' :: value.prettyText 0) := by
  have texts (value : Json) (inside : value ∈ values) :=
    Json.textOf_written (groups.fits fits value inside) 0
  have newline : Json.Blanks ['\n'] := Json.blanks_lineStart 0
  constructor
  · exact ⟨values, groups, Json.streamText_flatMap (fun value inside => (texts value inside).1)
      (by decide) groups.isDelimited Json.blanks_nil⟩
  · exact ⟨values, groups, Json.streamText_flatMap (fun value inside => (texts value inside).2)
      (by decide) groups.isDelimited newline⟩

/-- The events are read from each of their texts, in normal form. -/
theorem Layout.readsEvents {objects : List (List (String × Json))} {text : List Char}
    (layout : Layout objects text) :
    ReadsEvents (encode text) (objects.map (Json.normalMembers [])) := by
  obtain ⟨values, groups, stream⟩ := layout
  exact ⟨Text.Utf8.fault?_encode text, _, stream.parseSequence_eq, groups.events_eq⟩

/-- However events are laid out, the same is imported of them: their findings in their order, or the
version of the first event that is not understood. -/
theorem importBytes_regrouped {objects : List (List (String × Json))} {text other : List Char}
    (layout : Layout objects text) (otherLayout : Layout objects other) (artifact : Artifact) :
    Importer.telemetry.importBytes artifact (encode text) =
        Importer.telemetry.importBytes artifact (encode other) ∧
      Importer.telemetry.importBytes artifact (encode text) =
        reported artifact (objects.map (Json.normalMembers [])) :=
  ⟨(layout.readsEvents.importBytes_eq artifact).trans
      (otherLayout.readsEvents.importBytes_eq artifact).symm,
    layout.readsEvents.importBytes_eq artifact⟩

/-- An event with a key and a value. -/
def keyedEvent : List (String × Json) :=
  [("key", .string "a"), ("value", .integer 1)]

/-- An event with one member besides its version. -/
def versionedEvent : List (String × Json) :=
  [("sdk", .string "8.0"), ("schemaVersion", .integer 1)]

/-- Both events in one array without blanks. -/
def oneLine : String :=
  "[\x7b\"key\":\"a\",\"value\":1\x7d,\x7b\"sdk\":\"8.0\",\"schemaVersion\":1\x7d]"

/-- The first event, an empty array, and an array of the second event, with a line for every member.
-/
def manyLines : String :=
  "\n\x7b\n  \"key\": \"a\",\n  \"value\": 1\n\x7d\n[]\n[\n  \x7b\n    \"sdk\": \"8.0\",\n" ++
    "    \"schemaVersion\": 1\n  \x7d\n]"

theorem importBytes_regrouped_twoEvents :
    Layout [keyedEvent, versionedEvent] oneLine.toList ∧
      Layout [keyedEvent, versionedEvent] manyLines.toList ∧
      ∀ artifact : Artifact,
        Importer.telemetry.importBytes artifact (encode oneLine.toList) =
            Importer.telemetry.importBytes artifact (encode manyLines.toList) ∧
          Importer.telemetry.importBytes artifact (encode oneLine.toList) =
            .ok ⟨[.telemetry artifact.moduleKey "a" "1", .telemetry artifact.moduleKey "sdk" "8.0"],
              [], []⟩ := by
  have one : Json.IsWord 1 := ⟨by decide, by decide⟩
  have fits : ∀ members ∈ [keyedEvent, versionedEvent],
      Json.Fits (fun _ => False) 126 (.object members) := by
    refine List.forall_mem_cons.mpr ⟨.object ?_, List.forall_mem_singleton.mpr (.object ?_)⟩
    · exact List.forall_mem_cons.mpr ⟨.string _, List.forall_mem_singleton.mpr (.integer one)⟩
    · exact List.forall_mem_cons.mpr ⟨.string _, List.forall_mem_singleton.mpr (.integer one)⟩
  have whole : Groups [keyedEvent, versionedEvent]
      [.array [.object keyedEvent, .object versionedEvent]] :=
    @Groups.batch [keyedEvent, versionedEvent] [] [] .done
  have split : Groups [keyedEvent, versionedEvent]
      [.object keyedEvent, .array [], .array [.object versionedEvent]] :=
    .event (@Groups.batch [] _ _ (@Groups.batch [versionedEvent] [] [] .done))
  have compact : Layout [keyedEvent, versionedEvent] oneLine.toList := (layout_written whole fits).1
  have pretty : Layout [keyedEvent, versionedEvent] manyLines.toList :=
    (layout_written split fits).2
  refine ⟨compact, pretty, fun artifact => ?_⟩
  obtain ⟨same, outcome⟩ := importBytes_regrouped compact pretty artifact
  exact ⟨same, outcome.trans rfl⟩

end ScanMerge.Telemetry
