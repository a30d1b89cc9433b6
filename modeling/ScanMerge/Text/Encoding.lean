import ScanMerge.Text.Blank
import ScanMerge.Text.Lowercase
import ScanMerge.Text.Utf8

/-!
The text encodings of source files: their names, their byte order marks, decoding and encoding.
-/

set_option autoImplicit false

namespace ScanMerge.Text

/-- A text encoding of source files. -/
inductive Encoding where
  | utf8
  | utf16le
  | utf16be
  | windows1252
  deriving DecidableEq, Repr

namespace Encoding

def name : Encoding → String
  | .utf8 => "UTF-8"
  | .utf16le => "UTF-16LE"
  | .utf16be => "UTF-16BE"
  | .windows1252 => "windows-1252"

def all : List Encoding :=
  [.utf8, .utf16le, .utf16be, .windows1252]

/-- The word written to data files. -/
def keyword : Encoding → String
  | .utf8 => "utf8"
  | .utf16le => "utf16-le"
  | .utf16be => "utf16-be"
  | .windows1252 => "windows1252"

/-- The encoding with a configured name. Blanks around the name and its case do not count, and an
underscore stands for a hyphen. -/
def ofName? (text : String) : Option Encoding :=
  let spelled := (lowercase (trim text.toList)).map fun c => if c = '_' then '-' else c
  match String.ofList spelled with
  | "utf-8" | "utf8" => some .utf8
  | "utf-16le" | "utf-16" | "unicode" => some .utf16le
  | "utf-16be" => some .utf16be
  | "windows-1252" | "cp1252" | "iso-8859-1" | "latin1" => some .windows1252
  | _ => none

/-- The byte order mark of an encoding; windows-1252 has none. -/
def mark : Encoding → List UInt8
  | .utf8 => [0xEF, 0xBB, 0xBF]
  | .utf16le => [0xFF, 0xFE]
  | .utf16be => [0xFE, 0xFF]
  | .windows1252 => []

/-- The encoding whose byte order mark a byte string starts with. -/
def ofMark? : List UInt8 → Option Encoding
  | 0xEF :: 0xBB :: 0xBF :: _ => some .utf8
  | 0xFF :: 0xFE :: _ => some .utf16le
  | 0xFE :: 0xFF :: _ => some .utf16be
  | _ => none

/-- A byte string without the encoding's own byte order mark. -/
def body (encoding : Encoding) (bytes : List UInt8) : List UInt8 :=
  if ofMark? bytes = some encoding then bytes.drop encoding.mark.length else bytes

/-- The 16-bit units of a byte string of even length, each read by `unit`. -/
def units? (unit : UInt8 → UInt8 → Nat) : List UInt8 → Option (List Nat)
  | [] => some []
  | [_] => none
  | a :: b :: rest => (units? unit rest).map (unit a b :: ·)

def littleEndian (a b : UInt8) : Nat :=
  a.toNat + 256 * b.toNat

def bigEndian (a b : UInt8) : Nat :=
  256 * a.toNat + b.toNat

/-- The unit opens a surrogate pair. -/
def isHighSurrogate (unit : Nat) : Bool :=
  0xD800 ≤ unit && unit < 0xDC00

/-- The unit closes a surrogate pair. -/
def isLowSurrogate (unit : Nat) : Bool :=
  0xDC00 ≤ unit && unit < 0xE000

/-- The text of 16-bit units in which every surrogate is paired. -/
def ofUnits? : List Nat → Option (List Char)
  | [] => some []
  | a :: rest =>
    if isHighSurrogate a then
      match rest with
      | [] => none
      | b :: rest' =>
        if isLowSurrogate b then
          (ofUnits? rest').map
            (Char.ofNat (0x10000 + (a - 0xD800) * 0x400 + (b - 0xDC00)) :: ·)
        else
          none
    else if isLowSurrogate a then
      none
    else
      (ofUnits? rest).map (Char.ofNat a :: ·)

/-- The characters of the bytes 0x80 to 0x9F in windows-1252. An unassigned byte keeps its control
character. -/
def windows1252High : List Char :=
  ['\u20AC', '\u0081', '\u201A', '\u0192', '\u201E', '\u2026', '\u2020', '\u2021',
   '\u02C6', '\u2030', '\u0160', '\u2039', '\u0152', '\u008D', '\u017D', '\u008F',
   '\u0090', '\u2018', '\u2019', '\u201C', '\u201D', '\u2022', '\u2013', '\u2014',
   '\u02DC', '\u2122', '\u0161', '\u203A', '\u0153', '\u009D', '\u017E', '\u0178']

def windows1252Char (byte : UInt8) : Char :=
  if 0x80 ≤ byte && byte ≤ 0x9F then
    windows1252High.getD (byte.toNat - 0x80) '\uFFFD'
  else
    Char.ofNat byte.toNat

/-- The text of a byte string, without the encoding's own byte order mark; none when the bytes are
not valid in the encoding. -/
def decode? (encoding : Encoding) (bytes : List UInt8) : Option (List Char) :=
  let rest := encoding.body bytes
  match encoding with
  | .utf8 => Utf8.decode? rest
  | .utf16le => (units? littleEndian rest).bind ofUnits?
  | .utf16be => (units? bigEndian rest).bind ofUnits?
  | .windows1252 => some (rest.map windows1252Char)

@[simp] theorem mark_windows1252 : mark .windows1252 = [] := rfl

@[simp] theorem ofMark?_nil : ofMark? [] = none := rfl

end Encoding

/-- The encoding of source files without a byte order mark, as a configured name gives it. A blank
or unknown name stands for UTF-8. -/
def fallbackEncoding (configured : String) : Encoding :=
  (Encoding.ofName? configured).getD .utf8

/-- The encoding of a file with the given content: the one of its byte order mark, or the
fallback. -/
def detectEncoding (fallback : Encoding) (bytes : List UInt8) : Encoding :=
  (Encoding.ofMark? bytes).getD fallback

end ScanMerge.Text
