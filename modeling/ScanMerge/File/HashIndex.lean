import ScanMerge.Digest
import ScanMerge.Project

/-!
The digests of the files of a run. The first content that is recorded for a path is kept; another
one is a conflict.
-/

set_option autoImplicit false

namespace ScanMerge

/-- The answer to recording a content for a path. -/
inductive Recorded where
  /-- The path was not recorded before. -/
  | new (hash : String)
  /-- The path is recorded with the same content. -/
  | duplicate (hash : String)
  /-- The path is recorded with another content, which is kept. -/
  | conflict (conflict : Conflict)
  deriving DecidableEq, Repr

/-- The digest that is kept for the path. -/
def Recorded.hash : Recorded → String
  | .new hash => hash
  | .duplicate hash => hash
  | .conflict found => found.keptHash

namespace HashIndex

/-- The first record of a path. -/
structure Entry where
  path : Path
  moduleKey : String
  hash : String
  deriving DecidableEq, Repr

end HashIndex

/-- The first records of all paths and the conflicts with them, both in the order of recording. -/
structure HashIndex where
  entries : List HashIndex.Entry
  conflicts : List Conflict
  deriving DecidableEq, Repr

namespace HashIndex

def empty : HashIndex :=
  ⟨[], []⟩

def find? (index : HashIndex) (path : Path) : Option Entry :=
  index.entries.find? (·.path.same path)

def recordDigest (index : HashIndex) (path : Path) (moduleKey hash : String) :
    Recorded × HashIndex :=
  match index.find? path with
  | none => (.new hash, { index with entries := index.entries ++ [⟨path, moduleKey, hash⟩] })
  | some entry =>
    if entry.hash = hash then (.duplicate hash, index)
    else
      let conflict : Conflict := ⟨path, entry.moduleKey, entry.hash, moduleKey, hash⟩
      (.conflict conflict, { index with conflicts := index.conflicts ++ [conflict] })

def record (index : HashIndex) (path : Path) (moduleKey : String) (content : List UInt8) :
    Recorded × HashIndex :=
  index.recordDigest path moduleKey (digest content)

/-- Two recorded paths have different contents. -/
def differ (index : HashIndex) (left right : Path) : Bool :=
  match index.find? left, index.find? right with
  | some a, some b => a.hash ≠ b.hash
  | _, _ => false

end HashIndex

end ScanMerge
