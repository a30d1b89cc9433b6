import ScanMerge.Disk.Basic
import ScanMerge.Settings

/-!
Looking for source files in a directory tree. Links are not followed, entries whose name starts with
a dot are passed over, and so are excluded names.
-/

set_option autoImplicit false

namespace ScanMerge

namespace ScannerSettings

/-- A byte of a text in which capital ASCII letters count as small ones. -/
def foldCase (byte : UInt8) : UInt8 :=
  if 0x41 ≤ byte && byte ≤ 0x5A then byte + 0x20 else byte

/-- Two texts are the same up to the case of ASCII letters. -/
def sameFolded (left right : List UInt8) : Bool :=
  left.map foldCase = right.map foldCase

def acceptsExtension (settings : ScannerSettings) (extension : List UInt8) : Bool :=
  (Text.Utf8.decode? extension).isSome &&
    settings.extensions.any fun accepted => sameFolded (Text.Utf8.encodeString accepted) extension

def acceptsName (settings : ScannerSettings) (name : Name) : Bool :=
  ((Path.extensionOfName? name).map settings.acceptsExtension).getD false

def accepts (settings : ScannerSettings) (path : Path) : Bool :=
  (path.extension?.map settings.acceptsExtension).getD false

/-- Entries with this name are passed over. -/
def skips (settings : ScannerSettings) (name : Name) : Bool :=
  let shown := Text.Utf8.decodeLossy name
  shown.head? = some '.' || settings.excludes.contains (String.ofList shown)

/-- The source files in a folder, as lists of names, in order. -/
def filesIn (settings : ScannerSettings) : Folder → List (List Name)
  | .empty => []
  | .file name _ rest =>
    if !settings.skips name && settings.acceptsName name then [name] :: settings.filesIn rest
    else settings.filesIn rest
  | .link _ _ rest => settings.filesIn rest
  | .folder name inner rest =>
    if settings.skips name then settings.filesIn rest
    else (settings.filesIn inner).map (name :: ·) ++ settings.filesIn rest

def relativePath (names : List Name) : Path :=
  ⟨[Path.separator].intercalate names⟩

/-- The source files under a root, from there. A root that is itself a source file has the empty
path; one that is a link to a file has none. -/
def scan (settings : ScannerSettings) (disk : Disk) (root : Path) : List Path :=
  match disk.entry root with
  | .ok (.folder folder) => (settings.filesIn folder).map relativePath
  | .ok (.file _) => if disk.isLink root || !settings.accepts root then [] else [⟨[]⟩]
  | _ => []

end ScannerSettings

end ScanMerge
