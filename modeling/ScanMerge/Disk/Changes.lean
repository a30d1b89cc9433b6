import ScanMerge.Disk.Basic

/-!
The files that differ between two disks.
-/

set_option autoImplicit false

namespace ScanMerge

namespace Folder

/-- The files in a folder and in the folders inside, with their locations from there. -/
def files : Folder → List (Location × List UInt8)
  | .empty => []
  | .file name content rest => ([name], content) :: rest.files
  | .link _ _ rest => rest.files
  | .folder name inner rest =>
    inner.files.map (fun file => (name :: file.1, file.2)) ++ rest.files

end Folder

namespace Disk

/-- The files that are new on the later disk or have another content there. -/
def changedFiles (before after : Disk) : List (Location × List UInt8) :=
  after.root.files.filter fun file => before.at? file.1 ≠ some (.file file.2)

end Disk

end ScanMerge
