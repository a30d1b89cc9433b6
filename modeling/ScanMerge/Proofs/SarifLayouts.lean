import ScanMerge.Import.Registry
import ScanMerge.Proofs.JsonRecords

/-!
The two layouts of SARIF logs. What a log says is described here for each layout by the members that
are found in its text. A log is imported by what it says: in which of the layouts it is written, and
how its results are spread over runs, does not matter.
-/

set_option autoImplicit false

namespace ScanMerge.Sarif

open Json

/-! ### What a log says -/

/-- A result, in whichever layout it is written. -/
structure Entry where
  ruleId : String
  level : Option String := none
  message : Option String := none
  uri : Option String := none
  region : Option Region := none
  suppressed : Bool := false
  deriving DecidableEq, Repr

inductive Layout where
  /-- The layout 1.0.0. -/
  | v1
  /-- The layout 2.1.0. -/
  | v2

/-- The value is a region. -/
structure SaysRegion (value : Json) (region : Region) : Prop where
  isObject : value.IsObject
  startLine : Option.Rel SaysWord (value.present? "startLine") region.startLine
  startColumn : Option.Rel SaysWord (value.present? "startColumn") region.startColumn
  endLine : Option.Rel SaysWord (value.present? "endLine") region.endLine
  endColumn : Option.Rel SaysWord (value.present? "endColumn") region.endColumn

/-- The text is a member of an object that is itself a member, if it is there. -/
def SaysInnerText (value : Json) (outer name : String) (text : Option String) : Prop :=
  (value.present? outer = none ∧ text = none) ∨
    ∃ object, value.present? outer = some object ∧ object.IsObject ∧
      Option.Rel SaysText (object.present? name) text

namespace Layout

def version : Layout → String
  | v1 => "1.0.0"
  | v2 => "2.1.0"

def placeName : Layout → String
  | v1 => "resultFile"
  | v2 => "physicalLocation"

def otherPlaceName : Layout → String
  | v1 => "physicalLocation"
  | v2 => "resultFile"

/-- The message of a result is a string, and in 2.1.0 an object with a text. -/
def SaysMessage : Layout → Json → Option String → Prop
  | v1, result, text => Option.Rel SaysText (result.present? "message") text
  | v2, result, text => SaysInnerText result "message" "text" text

/-- A place has a URI, and in 2.1.0 an artifact that has one. -/
def SaysUri : Layout → Json → Option String → Prop
  | v1, place, uri =>
    Option.Rel SaysText (place.present? "uri") uri ∧ place.present? "artifactLocation" = none
  | v2, place, uri =>
    SaysInnerText place "artifactLocation" "uri" uri ∧ place.present? "uri" = none

/-- A result is suppressed by its suppression states, and in 2.1.0 by its suppressions. -/
def SaysSuppressed : Layout → Json → Bool → Prop
  | v1, result, suppressed =>
    ∃ states : List String, ListSays SaysText (result.get? "suppressionStates") states ∧
      ListSays Eq (result.get? "suppressions") [] ∧ suppressed = !states.isEmpty
  | v2, result, suppressed =>
    ∃ suppressions : List Json, ListSays Eq (result.get? "suppressions") suppressions ∧
      ListSays SaysText (result.get? "suppressionStates") [] ∧
      suppressed = !suppressions.isEmpty

/-- The value is the place of a result. -/
structure SaysPlace (layout : Layout) (place : Json) (entry : Entry) : Prop where
  isObject : place.IsObject
  uri : layout.SaysUri place entry.uri
  region : Option.Rel SaysRegion (place.present? "region") entry.region

/-- The value is the location of a result. -/
structure SaysLocation (layout : Layout) (location : Json) (entry : Entry) : Prop where
  isObject : location.IsObject
  place : ∃ place, location.present? layout.placeName = some place ∧ layout.SaysPlace place entry
  other : location.present? layout.otherPlaceName = none

/-- The value is a result. One without a file and a region need not have a location. -/
structure SaysResult (layout : Layout) (result : Json) (entry : Entry) : Prop where
  isObject : result.IsObject
  ruleId : result.get? "ruleId" = some (.string entry.ruleId)
  level : Option.Rel SaysText (result.present? "level") entry.level
  message : layout.SaysMessage result entry.message
  locations : ∃ entries, ListSays layout.SaysLocation (result.get? "locations") entries ∧
    (entries = [entry] ∨ entries = [] ∧ entry.uri = none ∧ entry.region = none)
  suppressed : layout.SaysSuppressed result entry.suppressed

/-- The value is a run with the results. -/
structure SaysRun (layout : Layout) (run : Json) (entries : List Entry) : Prop where
  isObject : run.IsObject
  results : ListSays layout.SaysResult (run.get? "results") entries

/-- The value is a log whose runs have the results. -/
structure SaysLog (layout : Layout) (log : Json) (runs : List (List Entry)) : Prop where
  isObject : log.IsObject
  version : log.get? "version" = some (.string layout.version)
  runs : ListSays layout.SaysRun (log.get? "runs") runs

end Layout

/-! ### Reading -/

def Region.schema : RecordSchema Region where
  start := {}
  declarations :=
    [member "startLine" (.optional .word) (·.startLine) ({ · with startLine := · }),
      member "startColumn" (.optional .word) (·.startColumn) ({ · with startColumn := · }),
      member "endLine" (.optional .word) (·.endLine) ({ · with endLine := · }),
      member "endColumn" (.optional .word) (·.endColumn) ({ · with endColumn := · })]
  Ignores _ _ := True
  distinct := by simp [member]
  get_put := by simp [member]
  get_put_other := by simp [member]
  eq_of_get := by
    rintro ⟨⟩ ⟨⟩ same
    simpa [member] using same

/-- The member of the location of an artifact. -/
def artifactSchema : RecordSchema (Option String) where
  start := none
  declarations := [member "uri" (.optional .text) id fun _ uri => uri]
  Ignores _ _ := True
  distinct := by simp
  get_put := by simp [member]
  get_put_other := by simp [member]
  eq_of_get := by simp [member]

def Place.schema : RecordSchema Place where
  start := {}
  declarations :=
    [member "uri" (.optional .text) (·.uri) ({ · with uri := · }),
      member "artifactLocation"
        (fun value => (Shape.optional artifactShape value).map Option.join) (·.artifactUri)
        ({ · with artifactUri := · }),
      member "region" (.optional Region.shape) (·.region) ({ · with region := · })]
  Ignores _ _ := True
  distinct := by simp [member]
  get_put := by simp [member]
  get_put_other := by simp [member]
  eq_of_get := by
    rintro ⟨⟩ ⟨⟩ same
    simpa [member] using same

def Location.schema : RecordSchema Location where
  start := {}
  declarations :=
    [member "resultFile" (.optional Place.shape) (·.resultFile) ({ · with resultFile := · }),
      member "physicalLocation" (.optional Place.shape) (·.physicalLocation)
        ({ · with physicalLocation := · })]
  Ignores _ _ := True
  distinct := by simp [member]
  get_put := by simp [member]
  get_put_other := by simp [member]
  eq_of_get := by
    rintro ⟨⟩ ⟨⟩ same
    simpa [member] using same

def Result.schema : RecordSchema Result where
  start := {}
  declarations :=
    [member "ruleId" .text (·.ruleId) ({ · with ruleId := · }),
      member "level" (.optional .text) (·.level) ({ · with level := · }),
      member "message" (.optional messageShape) (·.message) ({ · with message := · }),
      member "locations" (.list Location.shape) (·.locations) ({ · with locations := · }),
      member "suppressionStates" (.list .text) (·.suppressionStates)
        ({ · with suppressionStates := · }),
      member "suppressions" (fun value => (Shape.list .any value).map List.length)
        (·.suppressionCount) ({ · with suppressionCount := · })]
  Ignores _ _ := True
  distinct := by simp [member]
  get_put := by simp [member]
  get_put_other := by simp [member]
  eq_of_get := by
    rintro ⟨⟩ ⟨⟩ same
    simpa [member] using same

/-- A region is read as it says. -/
theorem Region.shape_eq_ok {value : Json} {region : Region} (isNormal : value.IsNormal)
    (said : SaysRegion value region) : Region.shape value = .ok region := by
  refine record_eq_ok schema ⟨?_, ?_⟩ _ _ isNormal said.isObject (fun _ _ => trivial) ?_
  · simp only [schema, List.forall_mem_cons]
    exact ⟨fun _ _ _ takes => congrArg (Except.map _) takes,
      fun _ _ _ takes => congrArg (Except.map _) takes,
      fun _ _ _ takes => congrArg (Except.map _) takes,
      fun _ _ _ takes => congrArg (Except.map _) takes, nofun⟩
  · intro name apart region source
    obtain ⟨first, second, third, fourth⟩ : name ≠ "startLine" ∧ name ≠ "startColumn" ∧
        name ≠ "endLine" ∧ name ≠ "endColumn" := by
      simpa [schema, member] using apart
    simp only
  · simp only [schema, List.forall_mem_cons]
    exact ⟨member_optional said.startLine fun _ _ _ => word_eq_ok,
      member_optional said.startColumn fun _ _ _ => word_eq_ok,
      member_optional said.endLine fun _ _ _ => word_eq_ok,
      member_optional said.endColumn fun _ _ _ => word_eq_ok, nofun⟩

theorem artifactShape_eq_ok {value : Json} {uri : Option String} (isNormal : value.IsNormal)
    (isObject : value.IsObject) (said : Option.Rel SaysText (value.present? "uri") uri) :
    artifactShape value = .ok uri := by
  refine record_eq_ok artifactSchema ⟨?_, ?_⟩ _ _ isNormal isObject (fun _ _ => trivial) ?_
  · simp only [artifactSchema, List.forall_mem_cons]
    exact ⟨fun _ _ _ takes => takes, nofun⟩
  · intro name apart uri source
    have first : name ≠ "uri" := by simpa [artifactSchema, member] using apart
    simp only
  · simp only [artifactSchema, List.forall_mem_cons]
    exact ⟨member_optional said fun _ _ _ => text_eq_ok, nofun⟩

theorem SaysInnerText.exists_artifact {value : Json} {uri : Option String}
    (said : SaysInnerText value "artifactLocation" "uri" uri) (isNormal : value.IsNormal) :
    ∃ artifact, Option.Rel (fun source uri => artifactShape source = .ok uri)
      (value.present? "artifactLocation") artifact ∧ artifact.join = uri := by
  obtain ⟨absent, rfl⟩ | ⟨artifact, present, isObject, said⟩ := said
  · rw [absent]
    exact ⟨none, .none, rfl⟩
  · rw [present]
    exact ⟨some uri, .some (artifactShape_eq_ok (isNormal.present? present) isObject said), rfl⟩

/-- A place is read as it says. The URI of its artifact is the one of the artifact's location. -/
theorem Place.shape_eq_ok {value : Json} {place : Place} (isNormal : value.IsNormal)
    (isObject : value.IsObject) (uri : Option.Rel SaysText (value.present? "uri") place.uri)
    {artifact : Option (Option String)}
    (artifactLocation : Option.Rel (fun source uri => artifactShape source = .ok uri)
      (value.present? "artifactLocation") artifact)
    (artifactUri : artifact.join = place.artifactUri)
    (region : Option.Rel SaysRegion (value.present? "region") place.region) :
    Place.shape value = .ok place := by
  refine record_eq_ok schema ⟨?_, ?_⟩ _ _ isNormal isObject (fun _ _ => trivial) ?_
  · simp only [schema, List.forall_mem_cons]
    exact ⟨fun _ _ _ takes => congrArg (Except.map _) takes,
      fun place _ _ takes =>
        map_eq_ok_of_map takes fun uri => Place.mk place.uri uri place.region,
      fun _ _ _ takes => congrArg (Except.map _) takes, nofun⟩
  · intro name apart place source
    obtain ⟨first, second, third⟩ : name ≠ "uri" ∧ name ≠ "artifactLocation" ∧
        name ≠ "region" := by
      simpa [schema, member] using apart
    simp only
  · obtain ⟨uri, _, region⟩ := place
    obtain rfl := artifactUri
    simp only [schema, List.forall_mem_cons]
    exact ⟨member_optional uri fun _ _ _ => text_eq_ok,
      member_map Option.join (member_optional artifactLocation fun _ _ _ reads => reads),
      member_optional region fun _ _ present =>
        Region.shape_eq_ok (isNormal.present? present), nofun⟩

/-- The place has the URI and the region. -/
structure Place.Tells (place : Place) (entry : Entry) : Prop where
  uri : (place.artifactUri <|> place.uri) = entry.uri
  region : place.region = entry.region

/-- A place is read as it says, in either layout. -/
theorem Layout.SaysPlace.exists_read {layout : Layout} {value : Json} {entry : Entry}
    (said : layout.SaysPlace value entry) (isNormal : value.IsNormal) :
    ∃ place, Place.shape value = .ok place ∧ place.Tells entry := by
  obtain ⟨isObject, uri, region⟩ := said
  cases layout with
  | v1 =>
    obtain ⟨uri, noArtifact⟩ := uri
    let place : Place := { uri := entry.uri, region := entry.region }
    exact ⟨place, Place.shape_eq_ok isNormal isObject uri (rel_none noArtifact) rfl region, rfl,
      rfl⟩
  | v2 =>
    obtain ⟨inner, noUri⟩ := uri
    obtain ⟨artifact, location, joined⟩ := inner.exists_artifact isNormal
    let place : Place := { artifactUri := entry.uri, region := entry.region }
    refine ⟨place,
      Place.shape_eq_ok isNormal isObject (rel_none noUri) location joined region, ?_, rfl⟩
    change (entry.uri <|> none) = entry.uri
    cases entry.uri <;> rfl

/-- The place of the location, in whichever layout, has the URI and the region. -/
def Location.Tells (location : Location) (entry : Entry) : Prop :=
  ∃ place, (location.physicalLocation <|> location.resultFile) = some place ∧ place.Tells entry

theorem Location.shape_eq_ok {value : Json} {location : Location} (isNormal : value.IsNormal)
    (isObject : value.IsObject)
    (resultFile : Option.Rel (fun source place => Place.shape source = .ok place)
      (value.present? "resultFile") location.resultFile)
    (physicalLocation : Option.Rel (fun source place => Place.shape source = .ok place)
      (value.present? "physicalLocation") location.physicalLocation) :
    Location.shape value = .ok location := by
  refine record_eq_ok schema ⟨?_, ?_⟩ _ _ isNormal isObject (fun _ _ => trivial) ?_
  · simp only [schema, List.forall_mem_cons]
    exact ⟨fun _ _ _ takes => congrArg (Except.map _) takes,
      fun _ _ _ takes => congrArg (Except.map _) takes, nofun⟩
  · intro name apart location source
    obtain ⟨first, second⟩ : name ≠ "resultFile" ∧ name ≠ "physicalLocation" := by
      simpa [schema, member] using apart
    simp only
  · simp only [schema, List.forall_mem_cons]
    exact ⟨member_optional resultFile fun _ _ _ reads => reads,
      member_optional physicalLocation fun _ _ _ reads => reads, nofun⟩

/-- A location is read as it says, in either layout. -/
theorem Layout.SaysLocation.exists_read {layout : Layout} {value : Json} {entry : Entry}
    (said : layout.SaysLocation value entry) (isNormal : value.IsNormal) :
    ∃ location, Location.shape value = .ok location ∧ location.Tells entry := by
  obtain ⟨isObject, ⟨source, present, said⟩, other⟩ := said
  obtain ⟨place, reads, tells⟩ := said.exists_read (isNormal.present? present)
  have here : Option.Rel (fun source place => Place.shape source = .ok place)
      (value.present? layout.placeName) (some place) := by
    rw [present]
    exact .some reads
  cases layout with
  | v1 =>
    exact ⟨⟨some place, none⟩, Location.shape_eq_ok isNormal isObject here (rel_none other), place,
      rfl, tells⟩
  | v2 =>
    exact ⟨⟨none, some place⟩, Location.shape_eq_ok isNormal isObject (rel_none other) here, place,
      rfl, tells⟩

theorem messageShape_eq_ok {value : Json} {text : Option String} (isObject : value.IsObject)
    (said : Option.Rel SaysText (value.present? "text") text) :
    messageShape value = .ok (text.getD "") := by
  obtain ⟨members, rfl⟩ := isObject
  rw [present?] at said
  rw [messageShape]
  generalize (Json.object members).get? "text" = found at said ⊢
  cases found with
  | none =>
    cases said
    rfl
  | some source =>
    cases source with
    | null =>
      cases said
      rfl
    | string found =>
      cases said with
      | some said =>
        cases said
        rfl
    | _ =>
      cases said with
      | some said => cases said

theorem Layout.SaysMessage.exists_read {layout : Layout} {value : Json} {text : Option String}
    (said : layout.SaysMessage value text) :
    ∃ message, Option.Rel (fun source message => messageShape source = .ok message)
      (value.present? "message") message ∧ message.getD "" = text.getD "" := by
  cases layout with
  | v1 =>
    refine ⟨text, ?_, rfl⟩
    change Option.Rel SaysText (value.present? "message") text at said
    generalize value.present? "message" = found at said ⊢
    cases said with
    | none => exact .none
    | some said =>
      rw [said]
      exact .some rfl
  | v2 =>
    obtain ⟨absent, rfl⟩ | ⟨message, present, isObject, said⟩ := said
    · exact ⟨none, rel_none absent, rfl⟩
    · rw [present]
      exact ⟨some (text.getD ""), .some (messageShape_eq_ok isObject said), rfl⟩

theorem Layout.SaysSuppressed.exists_read {layout : Layout} {value : Json} {suppressed : Bool}
    (said : layout.SaysSuppressed value suppressed) :
    ∃ (states : List String) (suppressions : List Json),
      ListSays SaysText (value.get? "suppressionStates") states ∧
        ListSays Eq (value.get? "suppressions") suppressions ∧
        suppressed = (!states.isEmpty || decide (suppressions.length ≠ 0)) := by
  cases layout with
  | v1 =>
    obtain ⟨states, areStates, none, rfl⟩ := said
    exact ⟨states, [], areStates, none, by simp⟩
  | v2 =>
    obtain ⟨suppressions, areSuppressions, none, rfl⟩ := said
    refine ⟨[], suppressions, none, areSuppressions, ?_⟩
    cases suppressions <;> rfl

theorem Result.shape_eq_ok {value : Json} {result : Result} (isNormal : value.IsNormal)
    (isObject : value.IsObject) (ruleId : value.get? "ruleId" = some (.string result.ruleId))
    (level : Option.Rel SaysText (value.present? "level") result.level)
    (message : Option.Rel (fun source message => messageShape source = .ok message)
      (value.present? "message") result.message)
    (locations : ListSays (fun source location => Location.shape source = .ok location)
      (value.get? "locations") result.locations)
    (states : ListSays SaysText (value.get? "suppressionStates") result.suppressionStates)
    {suppressions : List Json}
    (areSuppressions : ListSays Eq (value.get? "suppressions") suppressions)
    (count : suppressions.length = result.suppressionCount) :
    Result.shape value = .ok result := by
  refine record_eq_ok schema ⟨?_, ?_⟩ _ _ isNormal isObject (fun _ _ => trivial) ?_
  · simp only [schema, List.forall_mem_cons]
    exact ⟨fun _ _ _ takes => congrArg (Except.map _) takes,
      fun _ _ _ takes => congrArg (Except.map _) takes,
      fun _ _ _ takes => congrArg (Except.map _) takes,
      fun _ _ _ takes => congrArg (Except.map _) takes,
      fun _ _ _ takes => congrArg (Except.map _) takes,
      fun result _ _ takes =>
        map_eq_ok_of_map takes fun count => Result.mk result.ruleId result.level result.message
          result.locations result.suppressionStates count,
      nofun⟩
  · intro name apart result source
    obtain ⟨first, second, third, fourth, fifth, sixth⟩ : name ≠ "ruleId" ∧ name ≠ "level" ∧
        name ≠ "message" ∧ name ≠ "locations" ∧ name ≠ "suppressionStates" ∧
        name ≠ "suppressions" := by
      simpa [schema, member] using apart
    simp only
  · obtain ⟨_, _, _, _, _, _⟩ := result
    obtain rfl := count
    simp only [schema, List.forall_mem_cons]
    exact ⟨member_required ruleId rfl, member_optional level fun _ _ _ => text_eq_ok,
      member_optional message fun _ _ _ reads => reads,
      member_list locations fun _ _ _ _ _ reads => reads,
      member_list states fun _ _ _ _ _ => text_eq_ok,
      member_map List.length
        (member_list areSuppressions fun _ _ _ _ _ same => congrArg Except.ok same),
      nofun⟩

/-- What was read of a result tells what the result says, as far as findings depend on it. -/
structure Result.Tells (result : Result) (entry : Entry) : Prop where
  ruleId : result.ruleId = entry.ruleId
  level : result.level = entry.level
  message : result.message.getD "" = entry.message.getD ""
  uri : (result.place?.bind fun place => place.artifactUri <|> place.uri) = entry.uri
  region : result.place?.bind Place.region = entry.region
  suppressed : result.isSuppressed = entry.suppressed

theorem Result.place?_tells {result : Result} {entries : List Entry} {entry : Entry}
    (tell : List.Forall₂ Location.Tells result.locations entries)
    (which : entries = [entry] ∨ entries = [] ∧ entry.uri = none ∧ entry.region = none) :
    (result.place?.bind fun place => place.artifactUri <|> place.uri) = entry.uri ∧
      result.place?.bind Place.region = entry.region := by
  rw [place?]
  generalize result.locations = locations at tell ⊢
  obtain rfl | ⟨rfl, noUri, noRegion⟩ := which
  · cases tell with
    | @cons location _ _ _ tells none =>
      obtain ⟨place, found, tells⟩ := tells
      rw [List.head?_cons, Option.bind_some, found, Option.bind_some, Option.bind_some]
      exact ⟨tells.uri, tells.region⟩
  · cases tell
    exact ⟨noUri.symm, noRegion.symm⟩

/-- A result is read as it says, in either layout. -/
theorem Layout.SaysResult.exists_read {layout : Layout} {value : Json} {entry : Entry}
    (said : layout.SaysResult value entry) (isNormal : value.IsNormal) :
    ∃ result, Result.shape value = .ok result ∧ result.Tells entry := by
  obtain ⟨isObject, ruleId, level, message, ⟨entries, locations, which⟩, suppressed⟩ := said
  obtain ⟨text, messageReads, sameText⟩ := message.exists_read
  obtain ⟨states, suppressions, areStates, areSuppressions, sameSuppressed⟩ :=
    suppressed.exists_read
  obtain ⟨locations, locationsRead, tell⟩ := locations.exists_read
    fun items found item mem _ said => said.exists_read ((isNormal.get? found).item mem)
  let result : Result :=
    { ruleId := entry.ruleId, level := entry.level, message := text, locations
      suppressionStates := states, suppressionCount := suppressions.length }
  have tell : List.Forall₂ Location.Tells result.locations entries := tell
  obtain ⟨uri, region⟩ := Result.place?_tells tell which
  exact ⟨result, Result.shape_eq_ok isNormal isObject ruleId level messageReads locationsRead
    areStates areSuppressions rfl, rfl, rfl, sameText, uri, region, sameSuppressed.symm⟩

/-- The member of a run. -/
def runSchema : RecordSchema (List Result) where
  start := []
  declarations := [member "results" (.list Result.shape) id fun _ results => results]
  Ignores _ _ := True
  distinct := by simp
  get_put := by simp [member]
  get_put_other := by simp [member]
  eq_of_get := by simp [member]

/-- The member of a log, besides its version. -/
def logSchema : RecordSchema (List (List Result)) where
  start := []
  declarations := [member "runs" (.list runShape) id fun _ runs => runs]
  Ignores _ _ := True
  distinct := by simp
  get_put := by simp [member]
  get_put_other := by simp [member]
  eq_of_get := by simp [member]

theorem runShape_eq_ok {value : Json} {results : List Result} (isNormal : value.IsNormal)
    (isObject : value.IsObject)
    (areResults : ListSays (fun item result => Result.shape item = .ok result)
      (value.get? "results") results) : runShape value = .ok results := by
  refine record_eq_ok runSchema ⟨?_, ?_⟩ _ _ isNormal isObject (fun _ _ => trivial) ?_
  · simp only [runSchema, List.forall_mem_cons]
    exact ⟨fun _ _ _ takes => takes, nofun⟩
  · intro name apart results source
    have first : name ≠ "results" := by simpa [runSchema, member] using apart
    simp only
  · simp only [runSchema, List.forall_mem_cons]
    exact ⟨member_list areResults fun _ _ _ _ _ reads => reads, nofun⟩

theorem logShape_eq_ok {value : Json} {runs : List (List Result)} (isNormal : value.IsNormal)
    (isObject : value.IsObject)
    (areRuns : ListSays (fun item run => runShape item = .ok run) (value.get? "runs") runs) :
    logShape value = .ok runs := by
  refine record_eq_ok logSchema ⟨?_, ?_⟩ _ _ isNormal isObject (fun _ _ => trivial) ?_
  · simp only [logSchema, List.forall_mem_cons]
    exact ⟨fun _ _ _ takes => takes, nofun⟩
  · intro name apart runs source
    have first : name ≠ "runs" := by simpa [logSchema, member] using apart
    simp only
  · simp only [logSchema, List.forall_mem_cons]
    exact ⟨member_list areRuns fun _ _ _ _ _ reads => reads, nofun⟩

theorem Layout.SaysRun.exists_read {layout : Layout} {value : Json} {entries : List Entry}
    (said : layout.SaysRun value entries) (isNormal : value.IsNormal) :
    ∃ results, runShape value = .ok results ∧ List.Forall₂ Result.Tells results entries := by
  obtain ⟨isObject, results⟩ := said
  obtain ⟨results, areRead, tell⟩ := results.exists_read
    fun items found item mem _ said => said.exists_read ((isNormal.get? found).item mem)
  exact ⟨results, runShape_eq_ok isNormal isObject areRead, tell⟩

/-- A log is read as its results say, the runs one after the other, in either layout. -/
theorem Layout.SaysLog.exists_read {layout : Layout} {input : List UInt8} {log : Json}
    {runs : List (List Entry)} (parses : Json.parse input = .ok log)
    (said : layout.SaysLog log runs) :
    ∃ results, read input = .ok results ∧ List.Forall₂ Result.Tells results runs.flatten := by
  have isNormal := isNormal_of_parse parses
  obtain ⟨isObject, version, areRuns⟩ := said
  obtain ⟨results, areRead, tell⟩ := areRuns.exists_read
    fun items found item mem _ said => said.exists_read ((isNormal.get? found).item mem)
  have named : (log.get? "version").bind Json.string? = some layout.version := by
    rw [version]
    rfl
  have supported : supportedVersions.contains layout.version = true := by
    cases layout <;> decide
  refine ⟨results.flatten, ?_, List.rel_flatten tell⟩
  rw [read, parses]
  simp only [named, supported, if_true, logShape_eq_ok isNormal isObject areRead]

/-! ### Findings -/

/-- The finding that a result stands for. One without a file is an issue of the module. -/
def Entry.finding (moduleKey ruleKey : String) (entry : Entry) : Finding where
  kind := .issue
  sourceFile := entry.uri.map Path.ofUri
  key := ruleKey
  location := entry.uri.bind fun _ => entry.region.bind Region.location?
  message := entry.message.getD ""
  severity := some (severityOf entry.level)
  moduleKey
  projectType := .unknown

/-- What results contribute: findings of those that are not suppressed and whose rules have keys,
and a warning about the rules that have none. -/
def reported (settings : RuleSettings) (artifact : Artifact) (entries : List Entry) :
    Contribution :=
  let active := entries.filter fun entry => !entry.suppressed
  let unmapped := (active.map (·.ruleId)).filter fun id => (ruleKey? settings id).isNone
  { findings := active.filterMap fun entry =>
      (ruleKey? settings entry.ruleId).map fun key => entry.finding artifact.moduleKey key
    generatedFiles := []
    warnings := if unmapped = [] then [] else [unmappedWarning artifact unmapped] }

theorem Result.Tells.finding {result : Result} {entry : Entry} (tells : result.Tells entry)
    (moduleKey ruleKey : String) :
    result.finding moduleKey ruleKey = entry.finding moduleKey ruleKey := by
  have file : result.place?.bind Place.file? = entry.uri.map Path.ofUri := by
    rw [← tells.uri, Option.map_bind]
    rfl
  rw [Result.finding, file, tells.region, tells.message, tells.level, Entry.finding]
  cases entry.uri <;> rfl

theorem contribution_eq_reported (settings : RuleSettings) (artifact : Artifact)
    {results : List Result} {entries : List Entry}
    (tell : List.Forall₂ Result.Tells results entries) :
    contribution settings artifact results = reported settings artifact entries := by
  have active : List.Forall₂ Result.Tells (results.filter fun result => !result.isSuppressed)
      (entries.filter fun entry => !entry.suppressed) :=
    List.rel_filter (fun result entry tells => by
      change (!result.isSuppressed) = true ↔ (!entry.suppressed) = true
      rw [tells.suppressed]) tell
  rw [contribution, reported]
  generalize results.filter (fun result => !result.isSuppressed) = results,
    entries.filter (fun entry => !entry.suppressed) = entries at active ⊢
  have ids : results.map Result.ruleId = entries.map (·.ruleId) := by
    induction active with
    | nil => rfl
    | cons tells _ ih => rw [List.map_cons, List.map_cons, tells.ruleId, ih]
  have made : findings settings artifact.moduleKey results =
      entries.filterMap fun entry =>
        (ruleKey? settings entry.ruleId).map fun key => entry.finding artifact.moduleKey key := by
    rw [findings]
    clear ids
    induction active with
    | nil => rfl
    | cons tells _ ih =>
      rw [List.filterMap_cons, List.filterMap_cons, ih, tells.ruleId]
      simp only [tells.finding]
  simp only [unmappedIds, ids, made]

/-- A log is imported by what its results say, whichever its layout is and however they are spread
over runs. -/
theorem importBytes_of_said (settings : RuleSettings) (artifact : Artifact) {layout : Layout}
    {input : List UInt8} {log : Json} {runs : List (List Entry)}
    (parses : Json.parse input = .ok log) (said : layout.SaysLog log runs) :
    (Importer.sarif settings).importBytes artifact input =
      .ok (reported settings artifact runs.flatten) := by
  obtain ⟨results, reads, tell⟩ := said.exists_read parses
  simp only [Importer.importBytes, importBytes, reads]
  rw [Except.map, contribution_eq_reported settings artifact tell]
  rfl

end ScanMerge.Sarif
