import ScanMerge.Settings
import ScanMerge.Toml.Basic

/-!
Settings as TOML values. What a value does not mention has its default; what it mentions needs the
right type. A list stands for the members of a section in their order.
-/

set_option autoImplicit false

namespace ScanMerge

namespace Toml

def text? : Toml → Option String
  | .string value => some value
  | _ => none

def truth? : Toml → Option Bool
  | .boolean value => some value
  | _ => none

/-- Reads an integer that is not negative. -/
def natural? : Toml → Option Nat
  | .integer value => value.toNat?
  | _ => none

def texts? : Toml → Option (List String)
  | .array items => items.mapM text?
  | _ => none

/-- The name under which a date counts as a member of a table. -/
def datetimeName : String := "$__toml_private_datetime"

def textTable? : Toml → Option (KeyMap String)
  | .table members =>
    (members.mapM fun member => (text? member.2).map fun value => (member.1, value)).map
      KeyMap.ofList
  | .datetime text => some (KeyMap.ofList [(datetimeName, text)])
  | _ => none

/-- Reads a section. `member` stores the value of a member in the section so far. -/
def section? {α : Type} (names : List String) (member : α → String → Toml → Option α)
    (start : α) : Toml → Option α
  | .table members => members.foldlM (fun value entry => member value entry.1 entry.2) start
  | .array items => (names.zip items).foldlM (fun value entry => member value entry.1 entry.2) start
  | .datetime _ => some start
  | _ => none

end Toml

/-! ### Reading -/

def GeneralSettings.ofToml? : Toml → Option GeneralSettings :=
  Toml.section? ["output", "verbose", "concurrency"]
    (fun settings name value =>
      match name with
      | "output" => value.text?.map fun output => { settings with output }
      | "verbose" => value.truth?.map fun verbose => { settings with verbose }
      | "concurrency" => value.natural?.map fun concurrency => { settings with concurrency }
      | _ => some settings)
    {}

def EncodingSettings.ofToml? : Toml → Option EncodingSettings :=
  Toml.section? ["default"]
    (fun settings name value =>
      match name with
      | "default" => value.text?.map fun text => { settings with default := text }
      | _ => some settings)
    {}

def ClassifierSettings.ofToml? : Toml → Option ClassifierSettings :=
  Toml.section? ["generated_patterns", "generated_markers", "header_lines"]
    (fun settings name value =>
      match name with
      | "generated_patterns" =>
        value.texts?.map fun generatedPatterns => { settings with generatedPatterns }
      | "generated_markers" =>
        value.texts?.map fun generatedMarkers => { settings with generatedMarkers }
      | "header_lines" => value.natural?.map fun headerLines => { settings with headerLines }
      | _ => some settings)
    {}

def RuleSettings.ofToml? : Toml → Option RuleSettings :=
  Toml.section? ["repository", "rule_map"]
    (fun settings name value =>
      match name with
      | "repository" => value.text?.map fun repository => { settings with repository }
      | "rule_map" => value.textTable?.map fun ruleMap => { settings with ruleMap }
      | _ => some settings)
    {}

def ScannerSettings.ofToml? : Toml → Option ScannerSettings :=
  Toml.section? ["extensions", "excludes"]
    (fun settings name value =>
      match name with
      | "extensions" => value.texts?.map fun extensions => { settings with extensions }
      | "excludes" => value.texts?.map fun excludes => { settings with excludes }
      | _ => some settings)
    {}

def ReportSettings.ofToml? : Toml → Option ReportSettings :=
  Toml.section? ["fail_on_warnings", "include_measures"]
    (fun settings name value =>
      match name with
      | "fail_on_warnings" =>
        value.truth?.map fun failOnWarnings => { settings with failOnWarnings }
      | "include_measures" =>
        value.truth?.map fun includeMeasures => { settings with includeMeasures }
      | _ => some settings)
    {}

def Settings.ofToml? : Toml → Option Settings :=
  Toml.section? ["general", "encoding", "classifier", "roslyn", "scanner", "report"]
    (fun settings name value =>
      match name with
      | "general" => (GeneralSettings.ofToml? value).map fun general => { settings with general }
      | "encoding" =>
        (EncodingSettings.ofToml? value).map fun encoding => { settings with encoding }
      | "classifier" =>
        (ClassifierSettings.ofToml? value).map fun classifier => { settings with classifier }
      | "roslyn" => (RuleSettings.ofToml? value).map fun rules => { settings with rules }
      | "scanner" => (ScannerSettings.ofToml? value).map fun scanner => { settings with scanner }
      | "report" => (ReportSettings.ofToml? value).map fun report => { settings with report }
      | _ => some settings)
    {}

/-! ### Writing -/

def Toml.natural (value : Nat) : Toml :=
  .integer value

def Toml.strings (values : List String) : Toml :=
  .array (values.map .string)

def Settings.sections (settings : Settings) : List (String × Toml) :=
  [("general", .table
      [("output", .string settings.general.output), ("verbose", .boolean settings.general.verbose),
        ("concurrency", .natural settings.general.concurrency)]),
    ("encoding", .table [("default", .string settings.encoding.default)]),
    ("classifier", .table
      [("generated_patterns", .strings settings.classifier.generatedPatterns),
        ("generated_markers", .strings settings.classifier.generatedMarkers),
        ("header_lines", .natural settings.classifier.headerLines)]),
    ("roslyn", .table
      [("repository", .string settings.rules.repository),
        ("rule_map", .table
          (settings.rules.ruleMap.entries.map fun entry => (entry.1, .string entry.2)))]),
    ("scanner", .table
      [("extensions", .strings settings.scanner.extensions),
        ("excludes", .strings settings.scanner.excludes)]),
    ("report", .table
      [("fail_on_warnings", .boolean settings.report.failOnWarnings),
        ("include_measures", .boolean settings.report.includeMeasures)])]

def Settings.defaultText : String :=
  Toml.documentText ({} : Settings).sections

end ScanMerge
