import ScanMerge.Path
import ScanMerge.Settings
import ScanMerge.Text.Encoding
import ScanMerge.Text.Lines
import ScanMerge.Text.Lowercase
import ScanMerge.Wildcard

/-!
Which source files are generated and which cannot be decoded. A file is generated when a pattern
matches its path or one of its first lines holds a marker, in any case.
-/

set_option autoImplicit false

namespace ScanMerge

/-- What is found out about a source file. -/
structure Classification where
  generated : Bool
  wrongEncoding : Bool
  deriving DecidableEq, Repr

/-- The patterns and markers of generated files. -/
structure Classifier where
  patterns : List Wildcard
  /-- Lower-case texts, none of them empty. -/
  markers : List (List Char)
  /-- How many lines are searched for markers. -/
  headerLines : Nat
  deriving DecidableEq, Repr

namespace Classifier

/-- The classifier of settings. Patterns that are none and empty markers are left out. -/
def ofSettings (settings : ClassifierSettings) : Classifier :=
  { patterns := settings.generatedPatterns.filterMap Wildcard.ofString?
    markers :=
      (settings.generatedMarkers.map fun marker => Text.lowercase marker.toList).filter (· ≠ [])
    headerLines := settings.headerLines }

def coversPath (classifier : Classifier) (path : Path) : Bool :=
  classifier.patterns.any (·.covers path.displayChars)

def marks (classifier : Classifier) (line : List Char) : Bool :=
  let lowered := Text.lowercase line
  classifier.markers.any (Text.containsText · lowered)

/-- One of the first lines of the text holds a marker. -/
def marksHeader (classifier : Classifier) (text : List Char) : Bool :=
  ((Text.lines text).take classifier.headerLines).any classifier.marks

/-- Classifies a file by its path and its content in an encoding. -/
def classify (classifier : Classifier) (path : Path) (content : List UInt8)
    (encoding : Text.Encoding) : Classification :=
  match encoding.decode? content with
  | some text => ⟨classifier.coversPath path || classifier.marksHeader text, false⟩
  | none => ⟨classifier.coversPath path, true⟩

end Classifier

end ScanMerge
