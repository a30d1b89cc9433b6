import ScanMerge.Disk.Basic
import ScanMerge.File.Classifier
import ScanMerge.File.HashIndex

/-!
The records of the source files of a run, one for each path. A path is recorded once, with the
encoding and the classification of the content that it had then.
-/

set_option autoImplicit false

namespace ScanMerge

/-- Why a source file could not be registered. -/
inductive PathError where
  | notFound (path : Path)
  | unreadable (path : Path) (error : IoError)
  deriving DecidableEq, Repr

namespace PathError

/-- The path that could not be used. -/
def path : PathError → Path
  | .notFound path => path
  | .unreadable path _ => path

def message : PathError → String
  | .notFound path => s!"File not found: {path.display}"
  | .unreadable path error => s!"Failed to read {path.display}: {error.message}"

end PathError

namespace Disk

def resolve (disk : Disk) (path : Path) : Except PathError Path :=
  match disk.canonicalize path with
  | .ok canonical => .ok canonical
  | .error .notFound => .error (.notFound path)
  | .error error => .error (.unreadable path error)

/-- The canonical path of a file that is given from a base. -/
def resolveIn (disk : Disk) (base path : Path) : Except PathError Path :=
  disk.resolve (base.join path)

/-- The encoding of a file. One that cannot be read has the fallback. -/
def detectEncoding (disk : Disk) (fallback : Text.Encoding) (path : Path) : Text.Encoding :=
  match disk.read path with
  | .ok content => Text.detectEncoding fallback content
  | .error _ => fallback

end Disk

/-- The answer to registering a source file. -/
inductive FileRegistration where
  /-- The path was not recorded before. -/
  | recorded (record : FileRecord)
  /-- The path is recorded with the same content. -/
  | duplicate (record : FileRecord)
  /-- The path is recorded with another content. -/
  | conflict (kept : FileRecord) (conflict : Conflict)
  deriving DecidableEq, Repr

/-- The record that is kept for the path. -/
def FileRegistration.record : FileRegistration → FileRecord
  | .recorded record => record
  | .duplicate record => record
  | .conflict kept _ => kept

/-- The records of source files. -/
structure FileIndex where
  /-- The encoding of files without a byte order mark. -/
  fallback : Text.Encoding
  classifier : Classifier
  hashes : HashIndex
  /-- By path, ascending. -/
  records : List FileRecord
  deriving DecidableEq, Repr

namespace FileIndex

/-- The index of a run that begins. -/
def ofSettings (settings : Settings) : FileIndex :=
  { fallback := Text.fallbackEncoding settings.encoding.default
    classifier := .ofSettings settings.classifier
    hashes := .empty
    records := [] }

def find? (index : FileIndex) (path : Path) : Option FileRecord :=
  index.records.find? (·.path.same path)

/-- The records with one more, by path. -/
def insertRecord (record : FileRecord) : List FileRecord → List FileRecord
  | [] => [record]
  | present :: rest =>
    if record.path.compare present.path = .lt then record :: present :: rest
    else present :: insertRecord record rest

def recordOf (index : FileIndex) (moduleKey : String) (path : Path) (content : List UInt8)
    (hash : String) : FileRecord :=
  let encoding := Text.detectEncoding index.fallback content
  let classification := index.classifier.classify path content encoding
  { path, moduleKey, encoding, hash
    generated := classification.generated
    wrongEncoding := classification.wrongEncoding }

def registerContent (index : FileIndex) (moduleKey : String) (path : Path) (content : List UInt8) :
    FileRegistration × FileIndex :=
  let (answer, hashes) := index.hashes.record path moduleKey content
  match index.find? path with
  | some kept =>
    match answer with
    | .conflict conflict => (.conflict kept conflict, { index with hashes })
    | _ => (.duplicate kept, { index with hashes })
  | none =>
    let record := index.recordOf moduleKey path content answer.hash
    (.recorded record, { index with hashes, records := insertRecord record index.records })

def register (index : FileIndex) (disk : Disk) (moduleKey : String) (moduleRoot path : Path) :
    Except PathError (FileRegistration × FileIndex) :=
  match disk.resolveIn moduleRoot path with
  | .error error => .error error
  | .ok canonical =>
    match disk.read canonical with
    | .error error => .error (.unreadable canonical error)
    | .ok content => .ok (index.registerContent moduleKey canonical content)

/-- The conflicts, in the order of registration. -/
def conflicts (index : FileIndex) : List Conflict :=
  index.hashes.conflicts

end FileIndex

end ScanMerge
