import ScanMerge.Proofs.ReportRecords

/-!
Reports read back. A result has a JSON report when its paths are spelled by strings, and what is
read from the text of the report is the result, with the instant that was written.
-/

set_option autoImplicit false

namespace ScanMerge

/-- An instant of the calendar and a finite duration. -/
structure Clock.IsProper (clock : Clock) : Prop where
  date : clock.date.IsProper
  duration : clock.duration.IsProper

namespace Report

/-- Paths alone decide whether there is a report. -/
theorem isSome_json? (clock : Clock) (result : AnalysisResult) :
    (json? clock result).isSome = true ↔ ∀ path ∈ paths result, path.IsText := by
  simp only [Path.isText_iff]
  rw [← List.all_eq_true, json?]
  split
  · next all => exact ⟨fun _ => all, fun _ => rfl⟩
  · next notAll => exact ⟨nofun, fun all => absurd all notAll⟩

theorem text_of_json? {clock : Clock} {result : AnalysisResult} {text : String}
    (written : json? clock result = some text) :
    (result.json spellPath clock).pretty = text := by
  rw [json?] at written
  split at written
  · exact Option.some.inj written
  · cases written

/-- There is a report of a result when its paths are spelled by strings, and only then. What is read
from the text is the result, and its clock values but for the duration, which is read as some
double. Numbers are of 64 bits. -/
theorem json_readsBack {clock : Clock} (proper : clock.IsProper) {result : AnalysisResult}
    (small : ∀ count ∈ result.counts, count ≤ Json.greatestWord) :
    ((json? clock result).isSome = true ↔ ∀ path ∈ paths result, path.IsText) ∧
      ∀ text, json? clock result = some text →
        ∃ value duration, Json.parse (Text.Utf8.encodeString text) = .ok value ∧
          AnalysisResult.ofJson? readPath? value =
            some ({ clock with duration := duration }, result) := by
  refine ⟨isSome_json? clock result, fun text written => ?_⟩
  have isText := (isSome_json? clock result).mp (by rw [written]; rfl)
  obtain ⟨change, rereads⟩ := Json.exists_rereads
  have parsed := Json.parse_pretty rereads
    (AnalysisResult.fits_json 0 proper.duration small) (by decide)
  rw [AnalysisResult.mapDoubles_json change clock small, text_of_json? written] at parsed
  have read := AnalysisResult.ofJson?_json { clock with duration := change clock.duration }
    proper.date isText
  exact ⟨_, _, parsed, read⟩

/-! ### A result with texts to be escaped -/

/-- The last half second of a leap day, and a duration of a tenth of a second. -/
def leapClock : Clock :=
  ⟨⟨⟨2024, 2, 29⟩, 86399, 500000000⟩, ⟨false, 7205759403792794, -56⟩⟩

/-- A result whose texts hold quotes, backslashes, control characters and a character beyond the
basic plane. -/
def escapedResult : AnalysisResult where
  figures := ⟨⟨1, 0, 0⟩, 1, 0, 1, 1, 0, 0, 0, 1⟩
  findings :=
    [.issue "app" (.ofString "/a \"b\"\\c.vb") "vbnet:S1" (some ⟨3, 0, 4, 7⟩)
      "tab\tand\u0001 \x00 😀" .high]
  files := []
  conflicts := []
  methodDeclarations := []
  telemetry := KeyMap.ofList [("\"key\"", ["\r\n", "é"])]
  summary := ⟨1, 1, 0, 0, 0, 1, 0, 0, KeyMap.ofList [("vbnet:S1", 1)]⟩
  warnings := [⟨.skippedArtifact, none, some (.ofString "b\\n.sarif"), "\\u0000"⟩]

theorem json_readsBack_escaped :
    leapClock.IsProper ∧ (∀ count ∈ escapedResult.counts, count ≤ Json.greatestWord) ∧
      ∃ text value duration, json? leapClock escapedResult = some text ∧
        Json.parse (Text.Utf8.encodeString text) = .ok value ∧
        AnalysisResult.ofJson? readPath? value =
          some ({ leapClock with duration := duration }, escapedResult) := by
  have proper : leapClock.IsProper :=
    { date := ⟨by decide, by decide, by decide, by decide⟩
      duration := ⟨by decide, by decide, by decide, by decide⟩ }
  have small : ∀ count ∈ escapedResult.counts, count ≤ Json.greatestWord := by decide
  obtain ⟨succeeds, readsBack⟩ := json_readsBack proper small
  have isText : ∀ path ∈ paths escapedResult, path.IsText := by
    intro path member
    simp [paths, escapedResult, Finding.issue] at member
    rcases member with rfl | rfl <;> exact ⟨_, rfl⟩
  obtain ⟨text, written⟩ := Option.isSome_iff_exists.mp (succeeds.mpr isText)
  obtain ⟨value, duration, parsed, read⟩ := readsBack text written
  exact ⟨proper, small, text, value, duration, written, parsed, read⟩

end Report

end ScanMerge
