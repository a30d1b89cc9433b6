import ScanMerge.CommandLine.Arguments
import ScanMerge.Manifest
import ScanMerge.Settings.File

/-!
The places of the disk that a run is about: those that its arguments name, and those that its
manifest names.
-/

set_option autoImplicit false

namespace ScanMerge

/-- The roots of the modules of a manifest, and their source files and artifacts from there. -/
def Manifest.places (manifest : Manifest) : List Path :=
  manifest.modules.flatMap fun entry =>
    entry.root :: ((entry.sources.getD []) ++ entry.artifacts.map ArtifactEntry.path).map
      entry.root.join

namespace CommandLine

/-- The manifest and the settings file that arguments name, and the report that is to be written. -/
def Arguments.places (arguments : Arguments) : List Path :=
  Settings.defaultPath :: arguments.manifest.toList ++ arguments.config.toList ++
    arguments.output.toList

/-- The places that the words of a command line name; none when they cannot be read. -/
def namedPlaces (environment : Option Word) (words : List Word) : List Path :=
  match Arguments.ofWords environment words with
  | .ok arguments => arguments.places
  | .error _ => []

/-- The places that the manifest on a disk names, and the report that its settings file names. -/
def listedPlaces (disk : Disk) (environment : Option Word) (words : List Word) : List Path :=
  match Arguments.ofWords environment words with
  | .error _ => []
  | .ok arguments =>
    let settingsPath := arguments.config.getD Settings.defaultPath
    let settings := (Settings.load disk settingsPath).toOption.getD {}
    let manifest :=
      (arguments.manifest.bind fun path => (Manifest.load disk path).toOption).getD ⟨[]⟩
    .ofString settings.general.output :: manifest.places

end CommandLine

end ScanMerge
