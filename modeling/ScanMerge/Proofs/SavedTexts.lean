import ScanMerge.Proofs.Classification
import ScanMerge.Proofs.EncodedTexts
import ScanMerge.Proofs.TextLines

/-!
Saved texts. An editor saves a text in one of the encodings of Unicode, with its byte order mark,
and ends the lines with line feeds or with carriage returns and line feeds. How it does so has no
influence on the classification of the file, and neither has what follows the lines that are
searched for markers.
-/

set_option autoImplicit false

namespace ScanMerge

namespace Text

/-! ### Line ends -/

inductive LineEnd where
  | lf
  | crlf
  deriving DecidableEq

def LineEnd.chars : LineEnd → List Char
  | .lf => ['\n']
  | .crlf => ['\r', '\n']

/-- A text with its line feeds written in this way. -/
def LineEnd.write (lineEnd : LineEnd) (text : List Char) : List Char :=
  text.flatMap fun c => if c = '\n' then lineEnd.chars else [c]

theorem LineEnd.write_of_whole (lineEnd : LineEnd) {line : List Char} (whole : '\n' ∉ line) :
    lineEnd.write line = line := by
  induction line with
  | nil => rfl
  | cons c rest ih =>
    rw [List.mem_cons, not_or] at whole
    rw [write, List.flatMap_cons, if_neg (Ne.symm whole.1), ← write, ih whole.2,
      List.singleton_append]

theorem LineEnd.write_append (lineEnd : LineEnd) {line : List Char} (whole : '\n' ∉ line)
    (rest : List Char) :
    lineEnd.write (line ++ '\n' :: rest) = line ++ (lineEnd.chars ++ lineEnd.write rest) := by
  rw [write, List.flatMap_append, ← write, lineEnd.write_of_whole whole, List.flatMap_cons, ← write,
    if_pos rfl]

/-- The lines of a text do not depend on how their ends are written. -/
theorem LineEnd.lines_write (lineEnd : LineEnd) {text : List Char} (plain : '\r' ∉ text) :
    lines (lineEnd.write text) = lines text := by
  induction text using lines_induction with
  | last line whole => rw [lineEnd.write_of_whole whole]
  | more line rest whole ih =>
    obtain ⟨plainLine, plainRest⟩ := plain_append_iff.mp plain
    rw [lineEnd.write_append whole, lines_append whole, dropCarriageReturn_of_plain plainLine]
    cases lineEnd with
    | lf =>
      rw [chars, List.singleton_append, lines_append whole, dropCarriageReturn_of_plain plainLine,
        ih plainRest]
    | crlf =>
      -- The carriage return counts to the line until the line is cut off.
      have wholeToo : '\n' ∉ line ++ ['\r'] := by simpa using whole
      have shifted : line ++ (crlf.chars ++ crlf.write rest) =
          (line ++ ['\r']) ++ '\n' :: crlf.write rest := by simp [chars]
      rw [shifted, lines_append wholeToo, dropCarriageReturn_append, ih plainRest]

/-- The bytes of a file to which a text is saved. -/
def Encoding.UnicodeForm.save (form : Encoding.UnicodeForm) (lineEnd : LineEnd)
    (text : List Char) : List UInt8 :=
  form.encoding.mark ++ form.encode (lineEnd.write text)

end Text

namespace Classifier

open Text.Encoding

/-- A saved text reads back under the encoding that is found by its byte order mark. -/
theorem decode?_save (form : UnicodeForm) (lineEnd : Text.LineEnd) (fallback : Text.Encoding)
    (text : List Char) :
    (Text.detectEncoding fallback (form.save lineEnd text)).decode? (form.save lineEnd text) =
      some (lineEnd.write text) := by
  rw [Text.detectEncoding, UnicodeForm.save, UnicodeForm.ofMark?_mark_append, Option.getD_some,
    UnicodeForm.decode?_mark_append]

/-- The classification of a file to which a text was saved, under the encoding that is found. -/
def classifySaved (classifier : Classifier) (configured : String) (path : Path)
    (form : UnicodeForm) (lineEnd : Text.LineEnd) (text : List Char) : Classification :=
  let content := form.save lineEnd text
  classifier.classify path content
    (Text.detectEncoding (Text.fallbackEncoding configured) content)

theorem classifySaved_eq {classifier : Classifier} {configured : String} {path : Path}
    {form : UnicodeForm} {lineEnd : Text.LineEnd} {text : List Char} (plain : '\r' ∉ text) :
    classifier.classifySaved configured path form lineEnd text =
      ⟨classifier.coversPath path || classifier.marksHeader text, false⟩ := by
  rw [classifySaved, classify_of_decodes (decode?_save form lineEnd _ text), marksHeader,
    lineEnd.lines_write plain, marksHeader]

/-- A text without carriage returns is classified alike however it is saved: it decodes, and the
file is generated when a pattern covers its path or a marker stands in one of the first lines, both
in lower case. What follows these lines does not matter. -/
theorem classify_saved (settings : ClassifierSettings) (path : Path) (text : List Char)
    (plain : '\r' ∉ text) :
    ∃ answer : Classification, answer.wrongEncoding = false ∧
      (answer.generated = true ↔
        (∃ pattern ∈ settings.generatedPatterns, ∃ wildcard,
          Wildcard.ofString? pattern = some wildcard ∧
            wildcard.covers path.displayChars = true) ∨
        ∃ number < settings.headerLines, ∃ line, Text.HasLine text number line ∧
          ∃ marker ∈ settings.generatedMarkers, marker ≠ "" ∧
            Text.lowercase marker.toList <:+: Text.lowercase line) ∧
      (∀ configured form lineEnd,
        (ofSettings settings).classifySaved configured path form lineEnd text = answer) ∧
      ∀ behind, '\r' ∉ behind → settings.headerLines ≤ text.count '\n' →
        ∀ configured form lineEnd,
          (ofSettings settings).classifySaved configured path form lineEnd (text ++ behind) =
            answer := by
  refine ⟨⟨(ofSettings settings).coversPath path || (ofSettings settings).marksHeader text, false⟩,
    rfl, ?_, fun _ _ _ => classifySaved_eq plain, ?_⟩
  · rw [Bool.or_eq_true_iff, coversPath_ofSettings_iff, marksHeader_ofSettings_iff]
    refine or_congr_right ?_
    simp only [Text.mem_take_lines_iff plain]
    constructor
    · rintro ⟨line, ⟨number, early, has⟩, marked⟩
      exact ⟨number, early, line, has, marked⟩
    · rintro ⟨number, early, line, has, marked⟩
      exact ⟨line, ⟨number, early, has⟩, marked⟩
  · intro behind plainBehind enough configured form lineEnd
    have plainWhole : '\r' ∉ text ++ behind := by
      rw [List.mem_append, not_or]
      exact ⟨plain, plainBehind⟩
    have sameHeader : (ofSettings settings).marksHeader (text ++ behind) =
        (ofSettings settings).marksHeader text := by
      rw [marksHeader, marksHeader]
      congr 1
      exact Text.take_lines_append enough behind
    rw [classifySaved_eq plainWhole, sameHeader]

/-- Settings under which only the first line is searched. -/
def firstLineSettings : ClassifierSettings :=
  { headerLines := 1 }

theorem classify_saved_firstLine :
    '\r' ∉ "' Generated By X\n".toList ∧ '\r' ∉ "Module M".toList ∧
      firstLineSettings.headerLines ≤ "' Generated By X\n".toList.count '\n' ∧
        (ofSettings firstLineSettings).classifySaved "windows-1252" (.ofString "M.vb") .utf16be
          .crlf ("' Generated By X\n".toList ++ "Module M".toList) = ⟨true, false⟩ := by
  have plain : '\r' ∉ "' Generated By X\n".toList := by decide
  have plainBehind : '\r' ∉ "Module M".toList := by decide
  have enough : firstLineSettings.headerLines ≤ "' Generated By X\n".toList.count '\n' := by decide
  obtain ⟨answer, decodes, generated, -, behind⟩ :=
    classify_saved firstLineSettings (.ofString "M.vb") "' Generated By X\n".toList plain
  have first : Text.HasLine "' Generated By X\n".toList 0 "' Generated By X".toList :=
    @Text.HasLine.first "' Generated By X".toList [] (by decide)
  have marked : answer.generated = true :=
    generated.mpr (.inr ⟨0, by decide, _, first, "generated by", by decide, by decide,
      "' ".toList, " x".toList, by decide⟩)
  refine ⟨plain, plainBehind, enough, (behind _ plainBehind enough _ _ _).trans ?_⟩
  cases answer
  cases decodes
  cases marked
  rfl

end Classifier

end ScanMerge
