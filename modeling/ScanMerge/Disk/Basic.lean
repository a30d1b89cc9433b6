import ScanMerge.Disk.Folder

/-!
A disk: a directory tree and the working directory, from which relative paths are followed. Paths
are followed name by name, links included; what is asked of a path that leads nowhere is answered by
an error.
-/

set_option autoImplicit false

namespace ScanMerge

/-- Why a path could not be used. -/
inductive IoError where
  | notFound
  | notDirectory
  | isDirectory
  | nameTooLong
  | tooManyLinks
  | nulByte
  | notUtf8
  deriving DecidableEq, Repr

/-- What is said about a path that could not be used. -/
def IoError.message : IoError → String
  | .notFound => "No such file or directory (os error 2)"
  | .notDirectory => "Not a directory (os error 20)"
  | .isDirectory => "Is a directory (os error 21)"
  | .nameTooLong => "File name too long (os error 36)"
  | .tooManyLinks => "Too many levels of symbolic links (os error 40)"
  | .nulByte => "file name contained an unexpected NUL byte"
  | .notUtf8 => "stream did not contain valid UTF-8"

/-- The names from the root of the tree to an entry. -/
abbrev Location : Type := List Name

def Location.path (location : Location) : Path :=
  match location with
  | [] => ⟨[Path.separator]⟩
  | _ :: _ => ⟨location.flatMap fun name => Path.separator :: name⟩

/-- A directory tree with a working directory. -/
structure Disk where
  root : Folder
  working : Location
  ordered : root.Ordered

namespace Disk

def empty : Disk :=
  ⟨.empty, [], Folder.ordered_empty⟩

/-- The most links that are followed on one way. -/
def linkLimit : Nat := 40

def nameLimit : Nat := 255

/-- Paths of this length are too long for opening a file. -/
def pathLimit : Nat := 4096

/-- The entry at a location, links not being followed. -/
def at? (disk : Disk) (location : Location) : Option Entry :=
  disk.root.at? location

/-- The end of a way on which at most `links` links could be followed, and how many of them are
left. -/
structure Arrival (links : Nat) where
  location : Location
  left : Nat
  left_le : left ≤ links

/-- An arrival on a way with one link more before it. -/
def Arrival.afterLink {links : Nat} (arrival : Arrival links) : Arrival (links + 1) :=
  ⟨arrival.location, arrival.left, Nat.le_succ_of_le arrival.left_le⟩

/-- Follows the parts of a path from a directory. A part that is empty or `.` stays, `..` goes up,
and a link is replaced by the parts of its target, which `onward` follows. A file is passed by no
further part. -/
def followParts (disk : Disk) (links : Nat)
    (onward : Location → List Name → Except IoError (Arrival links)) (here : Location) :
    List Name → Except IoError (Arrival links)
  | [] => .ok ⟨here, links, Nat.le_refl _⟩
  | part :: rest =>
    if part = [] ∨ part = [Path.dot] then disk.followParts links onward here rest
    else if part = [Path.dot, Path.dot] then disk.followParts links onward here.dropLast rest
    else if nameLimit < part.length then .error .nameTooLong
    else
      match disk.at? (here ++ [part]) with
      | none => .error .notFound
      | some (.folder _) => disk.followParts links onward (here ++ [part]) rest
      | some (.file _) =>
        if rest = [] then .ok ⟨here ++ [part], links, Nat.le_refl _⟩ else .error .notDirectory
      | some (.link target) =>
        onward (if target.isAbsolute then [] else here) (Path.parts target.bytes ++ rest)

/-- Follows the parts of a path from a directory and at most `links` links on the way. -/
def follow (disk : Disk) : (links : Nat) → Location → List Name → Except IoError (Arrival links)
  | 0, here, parts => disk.followParts 0 (fun _ _ => .error .tooManyLinks) here parts
  | left + 1, here, parts =>
    disk.followParts (left + 1)
      (fun here parts => (disk.follow left here parts).map Arrival.afterLink) here parts

/-- A part that names an entry of a directory. -/
structure IsName (part : Name) : Prop where
  leads : ¬ (part = [] ∨ part = [Path.dot])
  down : part ≠ [Path.dot, Path.dot]
  short : ¬ nameLimit < part.length

section Follow

variable {disk : Disk} {links : Nat} {here : Location} {part : Name} {rest : List Name}

theorem follow_nil : disk.follow links here [] = .ok ⟨here, links, Nat.le_refl _⟩ := by
  cases links <;> rfl

theorem follow_of_stays (stays : part = [] ∨ part = [Path.dot]) :
    disk.follow links here (part :: rest) = disk.follow links here rest := by
  cases links <;> exact if_pos stays

theorem follow_of_up (leads : ¬ (part = [] ∨ part = [Path.dot]))
    (up : part = [Path.dot, Path.dot]) :
    disk.follow links here (part :: rest) = disk.follow links here.dropLast rest := by
  cases links <;> exact (if_neg leads).trans (if_pos up)

theorem follow_of_long (leads : ¬ (part = [] ∨ part = [Path.dot]))
    (down : part ≠ [Path.dot, Path.dot]) (long : nameLimit < part.length) :
    disk.follow links here (part :: rest) = .error .nameTooLong := by
  cases links <;> exact (if_neg leads).trans ((if_neg down).trans (if_pos long))

theorem follow_name (name : IsName part) :
    disk.follow links here (part :: rest) =
      match disk.at? (here ++ [part]) with
      | none => .error .notFound
      | some (.folder _) => disk.follow links (here ++ [part]) rest
      | some (.file _) =>
        if rest = [] then .ok ⟨here ++ [part], links, Nat.le_refl _⟩ else .error .notDirectory
      | some (.link target) =>
        match links with
        | 0 => .error .tooManyLinks
        | left + 1 =>
          (disk.follow left (if target.isAbsolute then [] else here)
            (Path.parts target.bytes ++ rest)).map Arrival.afterLink := by
  cases links <;> exact (if_neg name.leads).trans ((if_neg name.down).trans (if_neg name.short))

theorem follow_missing (name : IsName part) (missing : disk.at? (here ++ [part]) = none) :
    disk.follow links here (part :: rest) = .error .notFound := by
  rw [follow_name name, missing]

theorem follow_folder (name : IsName part) {inner : Folder}
    (found : disk.at? (here ++ [part]) = some (.folder inner)) :
    disk.follow links here (part :: rest) = disk.follow links (here ++ [part]) rest := by
  rw [follow_name name, found]

theorem follow_file (name : IsName part) {content : List UInt8}
    (found : disk.at? (here ++ [part]) = some (.file content)) :
    disk.follow links here (part :: rest) =
      if rest = [] then .ok ⟨here ++ [part], links, Nat.le_refl _⟩ else .error .notDirectory := by
  rw [follow_name name, found]

theorem follow_lastLink (name : IsName part) {target : Path}
    (found : disk.at? (here ++ [part]) = some (.link target)) :
    disk.follow 0 here (part :: rest) = .error .tooManyLinks := by
  rw [follow_name name, found]

theorem follow_link (name : IsName part) {target : Path}
    (found : disk.at? (here ++ [part]) = some (.link target)) :
    disk.follow (links + 1) here (part :: rest) =
      (disk.follow links (if target.isAbsolute then [] else here)
        (Path.parts target.bytes ++ rest)).map Arrival.afterLink := by
  rw [follow_name name, found]

/-- Induction along the ways on which parts are followed. -/
@[elab_as_elim]
theorem followInduction (disk : Disk) {motive : Nat → Location → List Name → Prop}
    (nil : ∀ links here, motive links here [])
    (stays : ∀ links here part rest, part = [] ∨ part = [Path.dot] → motive links here rest →
      motive links here (part :: rest))
    (up : ∀ links here part rest, ¬ (part = [] ∨ part = [Path.dot]) →
      part = [Path.dot, Path.dot] → motive links here.dropLast rest →
      motive links here (part :: rest))
    (long : ∀ links here part rest, ¬ (part = [] ∨ part = [Path.dot]) →
      part ≠ [Path.dot, Path.dot] → nameLimit < part.length → motive links here (part :: rest))
    (missing : ∀ links here part rest, IsName part → disk.at? (here ++ [part]) = none →
      motive links here (part :: rest))
    (folder : ∀ links here part rest, IsName part →
      ∀ inner, disk.at? (here ++ [part]) = some (.folder inner) →
        motive links (here ++ [part]) rest → motive links here (part :: rest))
    (file : ∀ links here part rest, IsName part →
      ∀ content, disk.at? (here ++ [part]) = some (.file content) →
        motive links here (part :: rest))
    (lastLink : ∀ here part rest, IsName part →
      ∀ target, disk.at? (here ++ [part]) = some (.link target) → motive 0 here (part :: rest))
    (link : ∀ left here part rest, IsName part →
      ∀ target, disk.at? (here ++ [part]) = some (.link target) →
        motive left (if target.isAbsolute then [] else here) (Path.parts target.bytes ++ rest) →
        motive (left + 1) here (part :: rest))
    (links : Nat) (here : Location) (parts : List Name) : motive links here parts := by
  -- Along the parts no link is left but the one that a part names.
  have along (links : Nat) (atLink : ∀ here part rest, IsName part →
      ∀ target, disk.at? (here ++ [part]) = some (.link target) →
        motive links here (part :: rest)) (parts : List Name) :
      ∀ here, motive links here parts := by
    induction parts with
    | nil => exact nil links
    | cons part rest ih =>
      intro here
      by_cases leads : part = [] ∨ part = [Path.dot]
      · exact stays links here part rest leads (ih here)
      by_cases down : part = [Path.dot, Path.dot]
      · exact up links here part rest leads down (ih here.dropLast)
      by_cases short : nameLimit < part.length
      · exact long links here part rest leads down short
      have name : IsName part := ⟨leads, down, short⟩
      cases found : disk.at? (here ++ [part]) with
      | none => exact missing links here part rest name found
      | some entry =>
        cases entry with
        | folder inner => exact folder links here part rest name inner found (ih _)
        | file content => exact file links here part rest name content found
        | link target => exact atLink here part rest name target found
  induction links generalizing here parts with
  | zero => exact along 0 lastLink parts here
  | succ left ih =>
    exact along (left + 1)
      (fun here part rest name target found =>
        link left here part rest name target found (ih _ _)) parts here

end Follow

def start (disk : Disk) (path : Path) : Location :=
  if path.isAbsolute then [] else disk.working

/-- A path is written without NUL bytes, and is not empty. -/
def checkSpelling (path : Path) : Except IoError Unit :=
  if path.bytes.contains 0 then .error .nulByte
  else if path.bytes = [] then .error .notFound
  else .ok ()

/-- The location of the entry that a path leads to. -/
def locate (disk : Disk) (path : Path) : Except IoError Location := do
  checkSpelling path
  let arrival ← disk.follow linkLimit (disk.start path) (Path.parts path.bytes)
  return arrival.location

/-- The canonical path of the entry that a path leads to. -/
def canonicalize (disk : Disk) (path : Path) : Except IoError Path :=
  (disk.locate path).map Location.path

/-- The location that a path leads to when a file is opened. -/
def openAt (disk : Disk) (path : Path) : Except IoError Location :=
  if path.bytes.contains 0 then .error .nulByte
  else if pathLimit ≤ path.bytes.length then .error .nameTooLong
  else disk.locate path

def entry (disk : Disk) (path : Path) : Except IoError Entry := do
  let location ← disk.openAt path
  match disk.at? location with
  | some entry => .ok entry
  | none => .error .notFound

def read (disk : Disk) (path : Path) : Except IoError (List UInt8) := do
  match ← disk.entry path with
  | .file content => .ok content
  | .folder _ => .error .isDirectory
  | .link _ => .error .notFound

def readText (disk : Disk) (path : Path) : Except IoError (List Char) := do
  match Text.Utf8.decode? (← disk.read path) with
  | some text => .ok text
  | none => .error .notUtf8

def exists? (disk : Disk) (path : Path) : Bool :=
  match disk.entry path with
  | .ok _ => true
  | .error _ => false

def isFile (disk : Disk) (path : Path) : Bool :=
  match disk.entry path with
  | .ok (.file _) => true
  | _ => false

/-- The parts of a path before its last name, the name, and whether a separator follows it. -/
def splitLast (parts : List Name) : List Name × Name × Bool :=
  let reversed := parts.reverse
  let named := reversed.dropWhile (· = [])
  (named.tail.reverse, named.head?.getD [], reversed.head? = some [])

/-- The last name of a path is that of a link. A separator behind it leads past the link. -/
def isLink (disk : Disk) (path : Path) : Bool :=
  let (before, name, trailing) := splitLast (Path.parts path.bytes)
  match disk.follow linkLimit (disk.start path) before with
  | .ok arrival =>
    match disk.at? (arrival.location ++ [name]) with
    | some (.link _) => !trailing
    | _ => false
  | .error _ => false

/-! ### Changes -/

def putFile (disk : Disk) (directory : Location) (name : Name) (content : List UInt8) : Disk :=
  { disk with
    root := Folder.changeAt (Folder.put name (.file content)) directory disk.root
    ordered := Folder.ordered_changeAt
      (fun inner => @Folder.ordered_put name (.file content) inner trivial) directory disk.ordered }

def putLink (disk : Disk) (directory : Location) (name : Name) (target : Path) : Disk :=
  { disk with
    root := Folder.changeAt (Folder.put name (.link target)) directory disk.root
    ordered := Folder.ordered_changeAt
      (fun inner => @Folder.ordered_put name (.link target) inner trivial) directory disk.ordered }

/-- The disk with an empty folder at a location whose directory is there. -/
def putFolder (disk : Disk) (directory : Location) (name : Name) : Disk :=
  { disk with
    root := Folder.changeAt (Folder.put name (.folder .empty)) directory disk.root
    ordered := Folder.ordered_changeAt
      (fun inner => @Folder.ordered_put name (.folder .empty) inner trivial) directory
        disk.ordered }

def removeAt (disk : Disk) (directory : Location) (name : Name) : Disk :=
  { disk with
    root := Folder.changeAt (Folder.erase name) directory disk.root
    ordered := Folder.ordered_changeAt (fun _ => Folder.ordered_erase) directory disk.ordered }

/-- Where a file is created or replaced by a path: a directory and a name in it. Links are followed,
also to a file that is not there yet. -/
def target (disk : Disk) (links : Nat) (here : Location) (parts : List Name) :
    Except IoError (Location × Name) := do
  let (before, name, trailing) := splitLast parts
  let arrival ← disk.follow links here (before ++ [[]])
  if trailing ∨ name = [] ∨ name = [Path.dot] ∨ name = [Path.dot, Path.dot] then
    .error .isDirectory
  else if nameLimit < name.length then
    .error .nameTooLong
  else
    match disk.at? (arrival.location ++ [name]) with
    | none => .ok (arrival.location, name)
    | some (.file _) => .ok (arrival.location, name)
    | some (.folder _) => .error .isDirectory
    | some (.link path) =>
      match found : arrival.left with
      | 0 => .error .tooManyLinks
      | left + 1 =>
        have : left < links := by have := arrival.left_le; omega
        disk.target left (if path.isAbsolute then [] else arrival.location) (Path.parts path.bytes)
termination_by links

/-- The disk after a file is created or replaced. -/
def write (disk : Disk) (path : Path) (content : List UInt8) : Except IoError Disk :=
  if path.bytes.contains 0 then .error .nulByte
  else if path.bytes = [] then .error .notFound
  else if pathLimit ≤ path.bytes.length then .error .nameTooLong
  else do
    let (directory, name) ← disk.target linkLimit (disk.start path) (Path.parts path.bytes)
    return disk.putFile directory name content

end Disk

end ScanMerge
