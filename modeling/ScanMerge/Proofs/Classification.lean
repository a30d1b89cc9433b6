import ScanMerge.File.Classifier
import Mathlib.Data.List.Infix

/-!
What the classifier of settings looks for: a path that one of the patterns covers, and a line among
the first ones in which the lower-case form of a marker stands after lower-casing.
-/

set_option autoImplicit false

namespace ScanMerge

namespace Text

theorem containsText_iff {part text : List Char} :
    containsText part text = true ↔ part <:+: text := by
  induction text with
  | nil => rw [containsText, List.isEmpty_iff, List.infix_nil]
  | cons c rest ih =>
    rw [containsText, Bool.or_eq_true_iff, List.isPrefixOf_iff_prefix, ih, List.infix_cons_iff]

theorem lowerChar_ne_nil (c : Char) : lowerChar c ≠ [] := by
  rw [lowerChar]
  split
  · exact List.cons_ne_nil _ _
  · split <;> exact List.cons_ne_nil _ _

/-- Nothing disappears in lower-casing. -/
theorem lowercase_eq_nil_iff {text : List Char} : lowercase text = [] ↔ text = [] := by
  cases text with
  | nil => exact iff_of_true rfl rfl
  | cons c rest =>
    refine iff_of_false (fun empty => ?_) (List.cons_ne_nil _ _)
    have front := (List.append_eq_nil_iff.mp empty).1
    split at front
    · split at front <;> exact List.cons_ne_nil _ _ front
    · exact lowerChar_ne_nil c front

end Text

namespace Classifier

variable {settings : ClassifierSettings}

theorem coversPath_ofSettings_iff {path : Path} :
    (ofSettings settings).coversPath path = true ↔
      ∃ pattern ∈ settings.generatedPatterns, ∃ wildcard,
        Wildcard.ofString? pattern = some wildcard ∧
          wildcard.covers path.displayChars = true := by
  rw [coversPath, List.any_eq_true]
  simp only [ofSettings, List.mem_filterMap]
  constructor
  · rintro ⟨wildcard, ⟨pattern, mem, read⟩, covers⟩
    exact ⟨pattern, mem, wildcard, read, covers⟩
  · rintro ⟨pattern, mem, wildcard, read, covers⟩
    exact ⟨wildcard, ⟨pattern, mem, read⟩, covers⟩

theorem marks_ofSettings_iff {line : List Char} :
    (ofSettings settings).marks line = true ↔
      ∃ marker ∈ settings.generatedMarkers, marker ≠ "" ∧
        Text.lowercase marker.toList <:+: Text.lowercase line := by
  have nonempty (marker : String) : Text.lowercase marker.toList ≠ [] ↔ marker ≠ "" := by
    rw [Ne, Text.lowercase_eq_nil_iff, String.toList_eq_nil_iff]
  simp only [marks, ofSettings, List.any_eq_true, List.mem_filter, List.mem_map,
    decide_eq_true_eq, Text.containsText_iff]
  constructor
  · rintro ⟨_, ⟨⟨marker, mem, rfl⟩, present⟩, inside⟩
    exact ⟨marker, mem, (nonempty marker).mp present, inside⟩
  · rintro ⟨marker, mem, present, inside⟩
    exact ⟨_, ⟨⟨marker, mem, rfl⟩, (nonempty marker).mpr present⟩, inside⟩

theorem marksHeader_ofSettings_iff {text : List Char} :
    (ofSettings settings).marksHeader text = true ↔
      ∃ line ∈ (Text.lines text).take settings.headerLines,
        ∃ marker ∈ settings.generatedMarkers, marker ≠ "" ∧
          Text.lowercase marker.toList <:+: Text.lowercase line := by
  rw [marksHeader, List.any_eq_true]
  simp only [marks_ofSettings_iff]
  rfl

/-- The classification of a content that decodes to a text. -/
theorem classify_of_decodes {classifier : Classifier} {path : Path} {content : List UInt8}
    {encoding : Text.Encoding} {text : List Char} (decodes : encoding.decode? content = some text) :
    classifier.classify path content encoding =
      ⟨classifier.coversPath path || classifier.marksHeader text, false⟩ := by
  rw [classify, decodes]

/-- A content that decodes is generated by its path or by a marker in one of its first lines. -/
theorem generated_ofSettings_iff {path : Path} {content : List UInt8} {encoding : Text.Encoding}
    {text : List Char} (decodes : encoding.decode? content = some text) :
    ((ofSettings settings).classify path content encoding).generated = true ↔
      (ofSettings settings).coversPath path = true ∨
        ∃ line ∈ (Text.lines text).take settings.headerLines,
          ∃ marker ∈ settings.generatedMarkers, marker ≠ "" ∧
            Text.lowercase marker.toList <:+: Text.lowercase line := by
  rw [classify_of_decodes decodes, Bool.or_eq_true_iff, marksHeader_ofSettings_iff]

end Classifier

end ScanMerge
