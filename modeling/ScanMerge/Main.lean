import ScanMerge.CommandLine.Places
import ScanMerge.CommandLine.Run
import ScanMerge.Disk.Changes
import Std.Time.DateTime.Timestamp

/-!
The program. It takes a picture of the places that a run is about, computes the run on the picture,
and carries out what the run leaves: its text, its files and its status.
-/

set_option autoImplicit false

namespace ScanMerge.CommandLine

def hostEntry (location : Location) : IO.FS.DirEntry :=
  ⟨"/", String.ofList (location.path.displayChars.drop 1)⟩

def locationOfText (path : String) : Location :=
  (Path.parts (Text.Utf8.encodeString path)).filter (· ≠ [])

/-- What sort of entry the file system has at a location, links not being followed. -/
def kindOf? (location : Location) : IO (Option IO.FS.FileType) :=
  (fun found => some found.type) <$> (hostEntry location).path.symlinkMetadata <|> pure none

/-- A picture of some places, with the places that links in them lead to. -/
structure Picture where
  disk : Disk
  linked : List Location

namespace Picture

/-- The picture with an entry at a location, whose directory is in it. The root is always there. -/
def put (picture : Picture) (location : Location) (entry : Disk → Location → Name → Disk) :
    Picture :=
  match location.getLast? with
  | none => picture
  | some name => { picture with disk := entry picture.disk location.dropLast name }

/-- The picture with a folder, unless one is there. -/
def putFolder (picture : Picture) (location : Location) : Picture :=
  match picture.disk.at? location with
  | some (.folder _) => picture
  | _ => picture.put location Disk.putFolder

/-- The picture with the link at a location, behind which more names are to be followed. -/
def addLink (picture : Picture) (location : Location) (rest : List Name) : IO Picture := do
  let target := locationOfText (toString (← IO.FS.realPath (hostEntry location).path))
  let picture := picture.put location fun disk directory name =>
    disk.putLink directory name target.path
  return { picture with linked := (target ++ rest) :: picture.linked }

/-- The picture with a file, a link or a directory tree. What cannot be read is left out. -/
partial def addTree (picture : Picture) (location : Location) : IO Picture := do
  let place := (hostEntry location).path
  match ← kindOf? location with
  | some .dir =>
    let children ← place.readDir <|> pure #[]
    children.foldlM (fun picture child =>
      picture.addTree (location ++ [Text.Utf8.encodeString child.fileName]))
      (picture.putFolder location)
  | some .file =>
    let content ← IO.FS.readBinFile place <|> pure .empty
    return picture.put location fun disk directory name =>
      disk.putFile directory name content.toList
  | some .symlink => picture.addLink location [] <|> pure picture
  | _ => return picture

/-- The picture with the way from a directory to a place, and what stands there. -/
def addPlace (picture : Picture) (here : Location) : List Name → IO Picture
  | [] => picture.addTree here
  | name :: rest => do
    if name = [Path.dot, Path.dot] then picture.addPlace here.dropLast rest
    else
      let next := here ++ [name]
      match ← kindOf? next with
      | some .dir => (picture.putFolder next).addPlace next rest
      | some .symlink => picture.addLink next rest <|> pure picture
      | _ => picture.addTree next

/-- The picture with places and those that links lead to. -/
partial def addPlaces (picture : Picture) (done : List Location) : List Location → IO Picture
  | [] => return picture
  | location :: rest => do
    if done.contains location then picture.addPlaces done rest
    else
      let picture ← picture.addPlace [] location
      { picture with linked := [] }.addPlaces (location :: done) (picture.linked ++ rest)

end Picture

/-- The location that a path names. -/
def locationOf (working : Location) (path : Path) : Location :=
  let parts := (Path.parts path.bytes).filter fun part => part ≠ [] ∧ part ≠ [Path.dot]
  if path.isAbsolute then parts else working ++ parts

def seconds (nanoseconds : Nat) : Decimal.Double :=
  (Decimal.Double.nearest? false nanoseconds Instant.nanosecondsPerSecond).getD (.zero false)

end ScanMerge.CommandLine

open ScanMerge ScanMerge.CommandLine in
/-- Runs the program. Its words and its environment come as strings here. -/
def main (arguments : List String) : IO UInt32 := do
  let started ← IO.monoNanosNow
  let now ← Std.Time.Timestamp.now
  let words := arguments.map Text.Utf8.encodeString
  let environment := (← IO.getEnv "SCAN_AGGREGATOR_MANIFEST").map Text.Utf8.encodeString
  let working := locationOfText (toString (← IO.currentDir))
  let picture ← Picture.addPlaces ⟨{ Disk.empty with working }, []⟩ []
    ((namedPlaces environment words).map (locationOf working))
  let picture ← picture.addPlaces []
    ((listedPlaces picture.disk environment words).map (locationOf working))
  let date := Instant.ofNanoseconds now.toNanosecondsSinceUnixEpoch.val.toNat
  let clock : Clock := ⟨date, seconds ((← IO.monoNanosNow) - started)⟩
  let outcome := run ⟨picture.disk, environment, clock⟩ words
  for (location, content) in picture.disk.changedFiles outcome.disk do
    IO.FS.writeBinFile (hostEntry location).path ⟨content.toArray⟩
  (← IO.getStdout).putStr outcome.output
  (← IO.getStderr).putStr outcome.errors
  return outcome.status.toUInt32
