import ScanMerge.Proofs.ReportRecords
import ScanMerge.Proofs.SarifLayouts

/-!
SARIF logs that are written in one of the two layouts. Any results can be written in either of them,
and importing them gives the same findings and warnings.
-/

set_option autoImplicit false

namespace ScanMerge.Sarif

open Json

/-! ### Writing -/

def word (value : UInt32) : Json :=
  natural value.toNat

def textObject (name text : String) : Json :=
  .object [(name, .string text)]

def Region.json (region : Region) : Json :=
  .object (optionalMember "startLine" word region.startLine ++
    optionalMember "startColumn" word region.startColumn ++
    optionalMember "endLine" word region.endLine ++
    optionalMember "endColumn" word region.endColumn)

namespace Layout

def message : Layout → String → Json
  | v1, text => .string text
  | v2, text => textObject "text" text

def uriName : Layout → String
  | v1 => "uri"
  | v2 => "artifactLocation"

def otherUriName : Layout → String
  | v1 => "artifactLocation"
  | v2 => "uri"

def uri : Layout → String → Json
  | v1, uri => .string uri
  | v2, uri => textObject "uri" uri

def suppressionsName : Layout → String
  | v1 => "suppressionStates"
  | v2 => "suppressions"

/-- The name of the suppressions of a result in the other layout. -/
def otherSuppressionsName : Layout → String
  | v1 => "suppressions"
  | v2 => "suppressionStates"

def suppressions : Layout → Bool → List Json
  | v1, true => [.string "suppressedInSource"]
  | v2, true => [textObject "kind" "inSource"]
  | _, false => []

def placeMembers (layout : Layout) (entry : Entry) : List (String × Json) :=
  optionalMember layout.uriName layout.uri entry.uri ++
    optionalMember "region" Region.json entry.region

def place (layout : Layout) (entry : Entry) : Json :=
  .object (layout.placeMembers entry)

def location (layout : Layout) (entry : Entry) : Json :=
  .object [(layout.placeName, layout.place entry)]

def members (layout : Layout) (entry : Entry) : List (String × Json) :=
  [("ruleId", .string entry.ruleId)] ++ optionalMember "level" .string entry.level ++
    optionalMember "message" layout.message entry.message ++
    [("locations", .array [layout.location entry]),
      (layout.suppressionsName, .array (layout.suppressions entry.suppressed))]

def result (layout : Layout) (entry : Entry) : Json :=
  .object (layout.members entry)

def run (layout : Layout) (entries : List Entry) : Json :=
  .object [("results", .array (entries.map layout.result))]

def log (layout : Layout) (runs : List (List Entry)) : Json :=
  .object [("version", .string layout.version), ("runs", .array (runs.map layout.run))]

end Layout

/-! ### What is written is said -/

theorem saysWord_word (value : UInt32) : SaysWord (normal (word value)) value :=
  rfl

theorem saysRegion_json (region : Region) : SaysRegion (normal region.json) region where
  isObject := isObject_normal _
  startLine := rel_normal word (by simp [List.lookup_append, lookup_optionalMember])
    saysWord_word nofun
  startColumn := rel_normal word (by simp [List.lookup_append, lookup_optionalMember])
    saysWord_word nofun
  endLine := rel_normal word (by simp [List.lookup_append, lookup_optionalMember])
    saysWord_word nofun
  endColumn := rel_normal word (by simp [List.lookup_append, lookup_optionalMember])
    saysWord_word nofun

theorem saysText_string (text : String) : SaysText (normal (.string text)) text :=
  rfl

theorem normal_object_ne_null (members : List (String × Json)) :
    normal (.object members) ≠ .null := by
  rw [normal_object]
  nofun

def HasText (name : String) (object : Json) (text : String) : Prop :=
  object.IsObject ∧ object.present? name = some (.string text)

theorem hasText_textObject (name text : String) :
    HasText name (normal (textObject name text)) text := by
  refine ⟨isObject_normal _, present?_eq_some_iff.mpr ⟨?_, nofun⟩⟩
  rw [textObject, get?_normal]
  simp [normal]

/-- An object with a text that is left out when there is no text. -/
theorem saysInnerText_normal {members : List (String × Json)} {outer name : String}
    {text : Option String}
    (found : members.reverse.lookup outer = text.map (textObject name)) :
    SaysInnerText (normal (.object members)) outer name text := by
  have said := rel_normal (textObject name) found (hasText_textObject name)
    fun _ => normal_object_ne_null _
  generalize present : (normal (.object members)).present? outer = object at said
  cases said with
  | none => exact .inl ⟨present, rfl⟩
  | some has =>
    obtain ⟨isObject, has⟩ := has
    refine .inr ⟨_, present, isObject, ?_⟩
    rw [has]
    exact .some rfl

namespace Layout

/-- The members of a place are found by their names. -/
theorem lookup_place (layout : Layout) (entry : Entry) :
    (layout.placeMembers entry).reverse.lookup layout.uriName = entry.uri.map layout.uri ∧
      (layout.placeMembers entry).reverse.lookup layout.otherUriName = none ∧
      (layout.placeMembers entry).reverse.lookup "region" = entry.region.map Region.json := by
  cases layout <;>
    simp [placeMembers, uriName, otherUriName, List.lookup_append, lookup_optionalMember]

theorem saysPlace_place (layout : Layout) (entry : Entry) :
    layout.SaysPlace (normal (layout.place entry)) entry := by
  obtain ⟨uri, other, region⟩ := layout.lookup_place entry
  have absent := present?_of_absent (get?_normal_of_absent other)
  exact {
    isObject := isObject_normal _
    uri := by
      cases layout with
      | v1 => exact ⟨rel_normal v1.uri uri saysText_string nofun, absent⟩
      | v2 => exact ⟨saysInnerText_normal uri, absent⟩
    region := rel_normal Region.json region saysRegion_json fun _ => normal_object_ne_null _ }

theorem saysLocation_location (layout : Layout) (entry : Entry) :
    layout.SaysLocation (normal (layout.location entry)) entry where
  isObject := isObject_normal _
  place := by
    refine ⟨normal (layout.place entry), present?_eq_some_iff.mpr
      ⟨get?_normal_of_lookup ?_, normal_object_ne_null _⟩, layout.saysPlace_place entry⟩
    simp
  other := by
    refine present?_of_absent (get?_normal_of_absent ?_)
    cases layout <;> simp [placeName, otherPlaceName, List.lookup_cons]

/-- The members of a result are found by their names. -/
theorem lookup_members (layout : Layout) (entry : Entry) :
    (layout.members entry).reverse.lookup "ruleId" = some (.string entry.ruleId) ∧
      (layout.members entry).reverse.lookup "level" = entry.level.map .string ∧
      (layout.members entry).reverse.lookup "message" = entry.message.map layout.message ∧
      (layout.members entry).reverse.lookup "locations" =
        some (.array ([entry].map layout.location)) ∧
      (layout.members entry).reverse.lookup layout.suppressionsName =
        some (.array (layout.suppressions entry.suppressed)) ∧
      (layout.members entry).reverse.lookup layout.otherSuppressionsName = none := by
  cases layout <;>
    simp [members, suppressionsName, otherSuppressionsName, List.lookup_append, List.lookup_cons,
      lookup_optionalMember]

theorem saysSuppressed_normal (layout : Layout) {members : List (String × Json)} {suppressed : Bool}
    (found : members.reverse.lookup layout.suppressionsName =
      some (.array (layout.suppressions suppressed)))
    (absent : members.reverse.lookup layout.otherSuppressionsName = none) :
    layout.SaysSuppressed (normal (.object members)) suppressed := by
  cases layout with
  | v1 =>
    let states : List String := if suppressed then ["suppressedInSource"] else []
    have written : v1.suppressions suppressed = states.map .string := by
      cases suppressed <;> rfl
    rw [written] at found
    refine ⟨states, listSays_normal .string found saysText_string, listSays_absent absent, ?_⟩
    cases suppressed <;> rfl
  | v2 =>
    have items : (normal (.object members)).get? v2.suppressionsName =
        some (.array ((v2.suppressions suppressed).map normal)) := by
      rw [get?_normal_of_lookup found, normal_array]
    refine ⟨_, .inr ⟨_, items, List.forall₂_same.mpr fun _ _ => rfl⟩, listSays_absent absent, ?_⟩
    cases suppressed <;> rfl

theorem saysResult_result (layout : Layout) (entry : Entry) :
    layout.SaysResult (normal (layout.result entry)) entry := by
  obtain ⟨ruleId, level, message, locations, found, absent⟩ := layout.lookup_members entry
  exact {
    isObject := isObject_normal _
    ruleId := get?_normal_of_lookup ruleId
    level := rel_normal .string level saysText_string nofun
    message := by
      cases layout with
      | v1 => exact rel_normal v1.message message saysText_string nofun
      | v2 => exact saysInnerText_normal message
    locations :=
      ⟨[entry], listSays_normal layout.location locations layout.saysLocation_location, .inl rfl⟩
    suppressed := layout.saysSuppressed_normal found absent }

theorem saysRun_run (layout : Layout) (entries : List Entry) :
    layout.SaysRun (normal (layout.run entries)) entries where
  isObject := isObject_normal _
  results := listSays_normal layout.result (by simp) layout.saysResult_result

theorem saysLog_log (layout : Layout) (runs : List (List Entry)) :
    layout.SaysLog (normal (layout.log runs)) runs := by
  have version : [("version", .string layout.version),
      ("runs", .array (runs.map layout.run))].reverse.lookup "version" =
        some (Json.string layout.version) := by
    simp [List.lookup_cons]
  exact {
    isObject := isObject_normal _
    version := get?_normal_of_lookup version
    runs := listSays_normal layout.run (by simp) layout.saysRun_run }

end Layout

/-! ### Texts of logs -/

section Limits

variable {allowed : Decimal.Double → Prop} {depth : Nat}

theorem fits_word (value : UInt32) : Fits allowed depth (word value) :=
  Json.fits_word value

theorem fits_textObject (name text : String) : Fits allowed (depth + 1) (textObject name text) := by
  simp [textObject]

theorem Region.fits_json (region : Region) : Fits allowed (depth + 1) region.json := by
  simp [json, fits_object_optional, fits_word]

namespace Layout

theorem fits_message (layout : Layout) (text : String) :
    Fits allowed (depth + 1) (layout.message text) := by
  cases layout with
  | v1 => exact .string text
  | v2 => exact fits_textObject "text" text

theorem fits_uri (layout : Layout) (uri : String) :
    Fits allowed (depth + 1) (layout.uri uri) := by
  cases layout with
  | v1 => exact .string uri
  | v2 => exact fits_textObject "uri" uri

theorem fits_location (layout : Layout) (entry : Entry) :
    Fits allowed (depth + 3) (layout.location entry) := by
  simp [location, place, placeMembers, fits_object_optional, fits_uri, Region.fits_json]

theorem fits_suppressions (layout : Layout) (suppressed : Bool) :
    Fits allowed (depth + 2) (.array (layout.suppressions suppressed)) := by
  refine .array fun item mem => ?_
  cases layout <;> cases suppressed <;> simp [suppressions] at mem <;> subst mem
  · exact .string _
  · exact fits_textObject _ _

theorem fits_result (layout : Layout) (entry : Entry) :
    Fits allowed (depth + 5) (layout.result entry) := by
  have locations : Fits allowed (depth + 4) (.array ([entry].map layout.location)) :=
    fits_array_map fun entry _ => layout.fits_location entry
  have suppressions : Fits allowed (depth + 4)
      (.array (layout.suppressions entry.suppressed)) :=
    layout.fits_suppressions entry.suppressed
  simp only [result, members, fits_object_append, fits_object_cons]
  exact ⟨⟨⟨⟨.string _, fits_object_nil⟩, fits_object_optional fun _ => .string _⟩,
    fits_object_optional layout.fits_message⟩, locations, suppressions, fits_object_nil⟩

theorem fits_log (layout : Layout) (runs : List (List Entry)) :
    Fits allowed (depth + 9) (layout.log runs) := by
  have run (entries : List Entry) : Fits allowed (depth + 7) (layout.run entries) := by
    rw [run, fits_object_cons]
    exact ⟨fits_array_map fun entry _ => layout.fits_result entry, fits_object_nil⟩
  rw [log, fits_object_cons, fits_object_cons]
  exact ⟨.string _, fits_array_map fun entries _ => run entries, fits_object_nil⟩

end Layout

end Limits

/-- The text of a log is read back. -/
theorem Layout.parse_log (layout : Layout) (runs : List (List Entry)) :
    Json.parse (Text.Utf8.encodeString (layout.log runs).pretty) =
      .ok (normal (layout.log runs)) := by
  obtain ⟨change, rereads⟩ := Json.exists_rereads
  have fits : Fits Decimal.Double.IsProper 9 (layout.log runs) := layout.fits_log runs
  have parsed := Json.parse_pretty rereads fits (by decide)
  have noDoubles : Fits (fun _ => False) 9 (layout.log runs) := layout.fits_log runs
  rwa [noDoubles.mapDoubles_eq change] at parsed

/-- The text of a log is imported. -/
theorem importBytes_log (settings : RuleSettings) (artifact : Artifact) (layout : Layout)
    (runs : List (List Entry)) :
    (Importer.sarif settings).importBytes artifact
        (Text.Utf8.encodeString (layout.log runs).pretty) =
      .ok (reported settings artifact runs.flatten) :=
  importBytes_of_said settings artifact (layout.parse_log runs) (layout.saysLog_log runs)

/-- Two logs of the same results, one in each layout, give the same findings in the same order and
the same warnings, however the results are spread over runs. This holds of all logs that say the
results, and every list of results is said by a log in either layout. -/
theorem importBytes_layouts (settings : RuleSettings) (artifact : Artifact)
    {olderRuns newerRuns : List (List Entry)} (same : olderRuns.flatten = newerRuns.flatten) :
    (∀ older olderLog newer newerLog, Json.parse older = .ok olderLog →
      Layout.v1.SaysLog olderLog olderRuns → Json.parse newer = .ok newerLog →
      Layout.v2.SaysLog newerLog newerRuns →
        (Importer.sarif settings).importBytes artifact older =
            .ok (reported settings artifact olderRuns.flatten) ∧
          (Importer.sarif settings).importBytes artifact newer =
            .ok (reported settings artifact olderRuns.flatten)) ∧
      (Importer.sarif settings).importBytes artifact
          (Text.Utf8.encodeString (Layout.v1.log olderRuns).pretty) =
        .ok (reported settings artifact olderRuns.flatten) ∧
      (Importer.sarif settings).importBytes artifact
          (Text.Utf8.encodeString (Layout.v2.log newerRuns).pretty) =
        .ok (reported settings artifact olderRuns.flatten) := by
  refine ⟨?_, importBytes_log settings artifact .v1 olderRuns, ?_⟩
  · intro older olderLog newer newerLog parsesOlder saysOlder parsesNewer saysNewer
    refine ⟨importBytes_of_said settings artifact parsesOlder saysOlder, ?_⟩
    rw [same]
    exact importBytes_of_said settings artifact parsesNewer saysNewer
  · rw [same]
    exact importBytes_log settings artifact .v2 newerRuns

/-- An issue in a file. -/
def unusedLocal : Entry where
  ruleId := "S1481"
  level := some "error"
  message := some "unused"
  uri := some "file:///a%20b.vb"
  region := some { startLine := some 3, endColumn := some 7 }

/-- A suppressed issue of a module. -/
def unusedParameter : Entry where
  ruleId := "S1172"
  suppressed := true

def unnecessaryImport : Entry where
  ruleId := "IDE0005"
  region := some {}

def plainLog : Artifact :=
  ⟨"app", .roslyn, .ofString "a.sarif"⟩

theorem importBytes_layouts_unused :
    [[unusedLocal, unusedParameter], [unnecessaryImport]].flatten =
        [[], [unusedLocal], [unusedParameter, unnecessaryImport]].flatten ∧
      (Importer.sarif {}).importBytes plainLog
          (Text.Utf8.encodeString
            (Layout.v1.log [[unusedLocal, unusedParameter], [unnecessaryImport]]).pretty) =
        .ok
          { findings :=
              [.issue "app" (.ofString "/a b.vb") "vbnet:S1481" (some ⟨3, 0, 3, 7⟩) "unused" .high]
            generatedFiles := []
            warnings := [unmappedWarning plainLog ["IDE0005"]] } ∧
      (Importer.sarif {}).importBytes plainLog
          (Text.Utf8.encodeString
            (Layout.v2.log [[], [unusedLocal], [unusedParameter, unnecessaryImport]]).pretty) =
        .ok
          { findings :=
              [.issue "app" (.ofString "/a b.vb") "vbnet:S1481" (some ⟨3, 0, 3, 7⟩) "unused" .high]
            generatedFiles := []
            warnings := [unmappedWarning plainLog ["IDE0005"]] } := by
  have same : [[unusedLocal, unusedParameter], [unnecessaryImport]].flatten =
      [[], [unusedLocal], [unusedParameter, unnecessaryImport]].flatten := rfl
  have expected :
      reported {} plainLog [[unusedLocal, unusedParameter], [unnecessaryImport]].flatten =
      { findings :=
          [.issue "app" (.ofString "/a b.vb") "vbnet:S1481" (some ⟨3, 0, 3, 7⟩) "unused" .high]
        generatedFiles := []
        warnings := [unmappedWarning plainLog ["IDE0005"]] } := by
    decide
  have texts := (importBytes_layouts {} plainLog same).2
  rw [expected] at texts
  exact ⟨same, texts⟩

end ScanMerge.Sarif
