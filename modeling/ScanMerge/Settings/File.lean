import ScanMerge.Disk.Basic
import ScanMerge.Settings.Toml
import ScanMerge.Toml.Parser

/-!
Settings files.
-/

set_option autoImplicit false

namespace ScanMerge

/-- Why a settings file gave no settings. -/
inductive SettingsError where
  | unreadable (path : Path) (error : IoError)
  | malformed (path : Path)
  deriving DecidableEq, Repr

def SettingsError.message : SettingsError → String
  | .unreadable path _ => s!"Failed to read config file: {path.display}"
  | .malformed path => s!"Failed to parse config file: {path.display}"

/-- The message with its cause, if that is known. -/
def SettingsError.fullMessage (error : SettingsError) : String :=
  match error with
  | .unreadable _ cause => error.message ++ ": " ++ cause.message
  | .malformed _ => error.message

namespace Settings

def defaultPath : Path := .ofString ".scan-aggregator.toml"

def ofText? (text : List Char) : Option Settings :=
  (Toml.parse text).bind ofToml?

def load (disk : Disk) (path : Path) : Except SettingsError Settings :=
  match disk.readText path with
  | .error error => .error (.unreadable path error)
  | .ok text => (ofText? text).elim (.error (.malformed path)) .ok

/-- Loads the settings file of the working directory, if there is one. -/
def loadDefault (disk : Disk) : Except SettingsError (Option Settings) :=
  if disk.exists? defaultPath then (load disk defaultPath).map some else .ok none

end Settings

end ScanMerge
