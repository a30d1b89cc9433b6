import ScanMerge.Text.Utf8

/-!
Paths. A path is a byte string; its segments say which file it names. Two paths are the same when
their segments are: repeated separators, `.` segments other than a leading one and a separator at
the end do not count.
-/

set_option autoImplicit false

namespace ScanMerge

/-- A path as it is spelled. -/
structure Path where
  bytes : List UInt8
  deriving DecidableEq, Repr, Inhabited

namespace Path

def separator : UInt8 := 0x2F

def dot : UInt8 := 0x2E

inductive Segment where
  /-- The separator that an absolute path starts with. -/
  | root
  /-- A leading `.`. -/
  | here
  /-- The segment `..`. -/
  | up
  | name (bytes : List UInt8)
  deriving DecidableEq, Repr

/-- A path spelled by a string. -/
def ofString (text : String) : Path :=
  ⟨Text.Utf8.encodeString text⟩

/-- The string that spells a path, when it is valid UTF-8. -/
def text? (path : Path) : Option String :=
  (Text.Utf8.decode? path.bytes).map String.ofList

def displayChars (path : Path) : List Char :=
  Text.Utf8.decodeLossy path.bytes

/-- A path as it is shown; bytes that are not UTF-8 become replacement characters. -/
def display (path : Path) : String :=
  String.ofList path.displayChars

def isAbsolute (path : Path) : Bool :=
  path.bytes.head? = some separator

/-- The byte strings between the separators, empty ones included. -/
def parts : List UInt8 → List (List UInt8)
  | [] => [[]]
  | byte :: rest =>
    if byte = separator then
      [] :: parts rest
    else
      match parts rest with
      | [] => [[byte]]
      | first :: others => (byte :: first) :: others

/-- The segment of a part that is not the first of a relative path. -/
def Segment.ofPart? (part : List UInt8) : Option Segment :=
  if part = [] ∨ part = [dot] then none
  else if part = [dot, dot] then some .up
  else some (.name part)

def segments (path : Path) : List Segment :=
  let all := parts path.bytes
  if path.isAbsolute then
    .root :: all.filterMap Segment.ofPart?
  else
    match all with
    | [] => []
    | first :: others =>
      if first = [dot] then
        .here :: others.filterMap Segment.ofPart?
      else
        (first :: others).filterMap Segment.ofPart?

/-- Two spellings of one path. -/
def same (left right : Path) : Bool :=
  left.segments = right.segments

def compareBytes (left right : List UInt8) : Ordering :=
  compareOfLessAndEq left right

/-- The place of a segment's kind in the order of segments. -/
def Segment.rank : Segment → Nat
  | .root => 0
  | .here => 1
  | .up => 2
  | .name _ => 3

/-- The order of segments: by kind, and names by their bytes. -/
def Segment.compare (left right : Segment) : Ordering :=
  match left, right with
  | .name a, .name b => compareBytes a b
  | a, b => Ord.compare a.rank b.rank

/-- The order of segment lists, the first difference deciding. -/
def compareSegments : List Segment → List Segment → Ordering
  | [], [] => .eq
  | [], _ :: _ => .lt
  | _ :: _, [] => .gt
  | a :: left, b :: right => (a.compare b).then (compareSegments left right)

/-- The order of paths, by their segments. -/
def compare (left right : Path) : Ordering :=
  compareSegments left.segments right.segments

/-- A path that is read from a base. An absolute path replaces the base. -/
def join (base path : Path) : Path :=
  if path.isAbsolute then path
  else if base.bytes = [] ∨ base.bytes.getLast? = some separator then ⟨base.bytes ++ path.bytes⟩
  else ⟨base.bytes ++ separator :: path.bytes⟩

/-- The shortest beginning of the spelling with all segments but the last; none when nothing or only
the root is there. -/
def parent? (path : Path) : Option Path :=
  if path.segments = [] ∨ path.segments = [.root] then none
  else
    ((List.range (path.bytes.length + 1)).find? fun length =>
      (Path.mk (path.bytes.take length)).segments = path.segments.dropLast).map fun length =>
        ⟨path.bytes.take length⟩

/-- The last segment, when it is a name. -/
def fileName? (path : Path) : Option (List UInt8) :=
  match path.segments.getLast? with
  | some (.name bytes) => some bytes
  | _ => none

/-- What follows the last dot of a file name; none when no dot is in it or only the first byte is
one. -/
def extensionOfName? (name : List UInt8) : Option (List UInt8) :=
  let reversed := name.reverse
  let extension := (reversed.takeWhile (· ≠ dot)).reverse
  match reversed.dropWhile (· ≠ dot) with
  | [] => none
  | [_] => none
  | _ :: _ :: _ => some extension

/-- The extension of a path's file name. -/
def extension? (path : Path) : Option (List UInt8) :=
  path.fileName?.bind extensionOfName?

@[simp] theorem same_self (path : Path) : path.same path = true := by simp [same]

theorem same_comm (left right : Path) : left.same right = right.same left := by
  simp [same, eq_comm]

theorem same_iff {left right : Path} : left.same right = true ↔ left.segments = right.segments := by
  simp [same]

theorem join_absolute {base path : Path} (h : path.isAbsolute = true) : base.join path = path := by
  simp [join, h]

end Path

end ScanMerge
