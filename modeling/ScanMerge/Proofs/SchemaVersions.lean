import ScanMerge.Proofs.TelemetryLayouts

/-!
Versions of telemetry events. A version that 64 bits hold is refused when it is too high, together
with all events. One that they do not hold is read as a double, which is no version at all, so the
event counts as one without a version.
-/

set_option autoImplicit false

namespace ScanMerge.Telemetry

open Text.Utf8 (encode)

/-- The event has a version, written as the digits of a number. -/
def HasVersion (members : List (String × Json)) (version : Nat) : Prop :=
  ∃ value, (Json.object members).get? schemaField = some value ∧
    Json.IsNumeral false (Nat.toDigits 10 version) value

/-- The members of an event besides its version. -/
def unversioned (members : List (String × Json)) : List (String × Json) :=
  members.filter fun member => member.1 ≠ schemaField

section Events

variable {members : List (String × Json)} {version : Nat}

theorem futureSchema?_of_le (hasVersion : HasVersion members version) (future : 1 < version)
    (small : version ≤ Json.greatestWord) : futureSchema? members = some version := by
  obtain ⟨value, found, numeral⟩ := hasVersion
  rw [futureSchema?, found, numeral.eq_integer small]
  exact if_pos future

theorem futureSchema?_of_gt (hasVersion : HasVersion members version)
    (great : Json.greatestWord < version) : futureSchema? members = none := by
  obtain ⟨value, found, numeral⟩ := hasVersion
  obtain ⟨double, rfl⟩ := numeral.exists_eq_double great
  rw [futureSchema?, found]
  rfl

theorem get?_unversioned (members : List (String × Json)) :
    (Json.object (unversioned members)).get? schemaField = none := by
  rw [Json.get?, List.lookup_eq_none_iff]
  intro member inside
  have other := (List.mem_filter.mp (List.mem_reverse.mp inside)).2
  exact bne_iff_ne.mpr (of_decide_eq_true other).symm

theorem futureSchema?_unversioned (members : List (String × Json)) :
    futureSchema? (unversioned members) = none := by
  rw [futureSchema?, get?_unversioned]
  rfl

/-- The version is not among the entries of an event. -/
theorem eventFindings_unversioned (moduleKey : String) (members : List (String × Json)) :
    eventFindings moduleKey (unversioned members) = eventFindings moduleKey members := by
  rw [eventFindings, eventFindings, entries, entries, unversioned, List.filter_filter]
  simp only [Bool.and_self]

end Events

/-- An event of a version that is too high, behind events that are understood, is refused when 64
bits hold the version. Otherwise what is imported is what would be without the version. -/
theorem importBytes_futureVersion {input : List UInt8} {before after : List (List (String × Json))}
    {members : List (String × Json)} {version : Nat}
    (reads : ReadsEvents input (before ++ members :: after))
    (understood : ∀ earlier ∈ before, futureSchema? earlier = none)
    (hasVersion : HasVersion members version) (future : 1 < version) (artifact : Artifact) :
    (version ≤ Json.greatestWord → Importer.telemetry.importBytes artifact input =
        .error (.unsupportedVersion .telemetryJson artifact.path (toString version))) ∧
      (Json.greatestWord < version → Importer.telemetry.importBytes artifact input =
        reported artifact (before ++ unversioned members :: after)) := by
  -- The events before this one are passed over in either list; the first version decides.
  have none : before.findSome? futureSchema? = none := List.findSome?_eq_none_iff.mpr understood
  rw [reads.importBytes_eq artifact, reported, reported, List.findSome?_append,
    List.findSome?_append, none, Option.none_or, Option.none_or, List.findSome?_cons,
    List.findSome?_cons]
  constructor
  · intro small
    rw [futureSchema?_of_le hasVersion future small]
  · intro great
    rw [futureSchema?_of_gt hasVersion great, futureSchema?_unversioned, List.flatMap_append,
      List.flatMap_append, List.flatMap_cons, List.flatMap_cons, eventFindings_unversioned]

/-- What is read of the first version that 64 bits do not hold. -/
def leastGreat : Decimal.Double := ⟨false, 4503599627370496, 12⟩

theorem isNumeral_leastGreat :
    Json.IsNumeral false (Nat.toDigits 10 18446744073709551616) (.double leastGreat) :=
  ⟨by decide, rfl⟩

/-- An event of that version, with one member besides. -/
def greatEvent : List (String × Json) :=
  [("schemaVersion", .double leastGreat), ("sdk", .string "8.0")]

def greatText : String :=
  "\x7b\"schemaVersion\":18446744073709551616,\"sdk\":\"8.0\"\x7d"

theorem layout_greatText : Layout [greatEvent] greatText.toList := by
  have version : Json.TextOf 0 (.double leastGreat) (Nat.toDigits 10 18446744073709551616) :=
    Json.IsToken.double isNumeral_leastGreat
  have sdk : Json.TextOf 0 (.string "8.0") (Json.quoted "8.0".toList) :=
    (Json.textOf_written (.string "8.0") 0).1
  have text : Json.TextOf 1 (.object greatEvent) greatText.toList :=
    .object (.elements
      (Json.spaced_of_element (Json.memberText_quoted (Json.spaced_of_element version)))
      (.next Json.blanks_nil
        (Json.spaced_of_element (Json.memberText_quoted (Json.spaced_of_element sdk)))
        (.done Json.blanks_nil)))
  have stream : Json.StreamText [.object greatEvent] ([] ++ (greatText.toList ++ [])) :=
    .next Json.blanks_nil text (by decide) rfl (.done Json.blanks_nil)
  rw [List.nil_append, List.append_nil] at stream
  exact ⟨_, .event .done, stream⟩

/-- It is imported as if it had no version. -/
theorem importBytes_futureVersion_greatText :
    ReadsEvents (encode greatText.toList) ([] ++ greatEvent :: []) ∧
      HasVersion greatEvent 18446744073709551616 ∧
      ∀ artifact : Artifact, Importer.telemetry.importBytes artifact (encode greatText.toList) =
        .ok ⟨[.telemetry artifact.moduleKey "sdk" "8.0"], [], []⟩ := by
  have reads : ReadsEvents (encode greatText.toList) ([] ++ greatEvent :: []) :=
    layout_greatText.readsEvents
  have version : HasVersion greatEvent 18446744073709551616 := ⟨_, rfl, isNumeral_leastGreat⟩
  refine ⟨reads, version, fun artifact => ?_⟩
  have imported := importBytes_futureVersion reads nofun version (by decide) artifact
  exact (imported.2 (by decide)).trans rfl

end ScanMerge.Telemetry
