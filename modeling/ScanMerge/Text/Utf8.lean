/-!
UTF-8. A byte string falls into pieces: the characters that stand in it, broken pieces that begin
no character, and possibly a character cut off by the end. Strict decoding, decoding with
replacement characters and the position of the first fault are read off the pieces.
-/

set_option autoImplicit false

namespace ScanMerge.Text.Utf8

/-- One piece of a byte string read as UTF-8. -/
inductive Piece where
  /-- A character, written with so many bytes. -/
  | char (value : Char) (width : Nat)
  /-- So many bytes that begin no character. -/
  | broken (width : Nat)
  /-- So many bytes at the end of the input that begin a character and do not complete it. -/
  | cut (width : Nat)
  deriving DecidableEq, Repr

/-- The number of bytes in a piece. -/
def Piece.width : Piece → Nat
  | .char _ width => width
  | .broken width => width
  | .cut width => width

/-- The byte can follow another byte inside a character. -/
def isContinuation (byte : UInt8) : Bool :=
  0x80 ≤ byte && byte ≤ 0xBF

/-- The second byte of a three-byte character: no overlong form and no surrogate. -/
def isSecondOfThree (first second : UInt8) : Bool :=
  if first = 0xE0 then 0xA0 ≤ second && second ≤ 0xBF
  else if first = 0xED then 0x80 ≤ second && second ≤ 0x9F
  else isContinuation second

/-- The second byte of a four-byte character: no overlong form and nothing past the last plane. -/
def isSecondOfFour (first second : UInt8) : Bool :=
  if first = 0xF0 then 0x90 ≤ second && second ≤ 0xBF
  else if first = 0xF4 then 0x80 ≤ second && second ≤ 0x8F
  else isContinuation second

/-- The six payload bits of a continuation byte. -/
def payload (byte : UInt8) : Nat :=
  byte.toNat % 64

/-- The pieces of a byte string, in order. -/
def pieces : List UInt8 → List Piece
  | [] => []
  | a :: afterA =>
    if a < 0x80 then
      .char (Char.ofNat a.toNat) 1 :: pieces afterA
    else if 0xC2 ≤ a && a ≤ 0xDF then
      match afterA with
      | [] => [.cut 1]
      | b :: afterB =>
        if isContinuation b then
          .char (Char.ofNat (a.toNat % 32 * 64 + payload b)) 2 :: pieces afterB
        else
          .broken 1 :: pieces (b :: afterB)
    else if 0xE0 ≤ a && a ≤ 0xEF then
      match afterA with
      | [] => [.cut 1]
      | b :: afterB =>
        if isSecondOfThree a b then
          match afterB with
          | [] => [.cut 2]
          | c :: afterC =>
            if isContinuation c then
              .char (Char.ofNat (a.toNat % 16 * 4096 + payload b * 64 + payload c)) 3 ::
                pieces afterC
            else
              .broken 2 :: pieces (c :: afterC)
        else
          .broken 1 :: pieces (b :: afterB)
    else if 0xF0 ≤ a && a ≤ 0xF4 then
      match afterA with
      | [] => [.cut 1]
      | b :: afterB =>
        if isSecondOfFour a b then
          match afterB with
          | [] => [.cut 2]
          | c :: afterC =>
            if isContinuation c then
              match afterC with
              | [] => [.cut 3]
              | d :: afterD =>
                if isContinuation d then
                  .char (Char.ofNat
                    (a.toNat % 8 * 262144 + payload b * 4096 + payload c * 64 + payload d)) 4 ::
                    pieces afterD
                else
                  .broken 3 :: pieces (d :: afterD)
            else
              .broken 2 :: pieces (c :: afterC)
        else
          .broken 1 :: pieces (b :: afterB)
    else
      .broken 1 :: pieces afterA

def Piece.char? : Piece → Option Char
  | .char value _ => some value
  | .broken _ => none
  | .cut _ => none

/-- The character of a piece, or the replacement character. -/
def Piece.replaced : Piece → Char
  | .char value _ => value
  | .broken _ => '\uFFFD'
  | .cut _ => '\uFFFD'

/-- The text of a byte string that is valid UTF-8. -/
def decode? (bytes : List UInt8) : Option (List Char) :=
  (pieces bytes).mapM Piece.char?

/-- The text of any byte string; each piece that is no character becomes one replacement
character. -/
def decodeLossy (bytes : List UInt8) : List Char :=
  (pieces bytes).map Piece.replaced

/-- Where and how a byte string stops being UTF-8. -/
structure Fault where
  /-- The number of bytes before the fault. -/
  index : Nat
  /-- The number of bytes that begin no character; none when the input ends inside one. -/
  length : Option Nat
  deriving DecidableEq, Repr

/-- The first fault among the pieces, `index` bytes standing before them. -/
def faultAmong (index : Nat) : List Piece → Option Fault
  | [] => none
  | .char _ width :: rest => faultAmong (index + width) rest
  | .broken width :: _ => some ⟨index, some width⟩
  | .cut _ :: _ => some ⟨index, none⟩

/-- The first fault of a byte string. -/
def fault? (bytes : List UInt8) : Option Fault :=
  faultAmong 0 (pieces bytes)

def Fault.message (fault : Fault) : String :=
  match fault.length with
  | some length => s!"invalid utf-8 sequence of {length} bytes from index {fault.index}"
  | none => s!"incomplete utf-8 byte sequence from index {fault.index}"

def encodeChar (c : Char) : List UInt8 :=
  let code := c.toNat
  if code < 0x80 then
    [UInt8.ofNat code]
  else if code < 0x800 then
    [UInt8.ofNat (0xC0 + code / 64), UInt8.ofNat (0x80 + code % 64)]
  else if code < 0x10000 then
    [UInt8.ofNat (0xE0 + code / 4096), UInt8.ofNat (0x80 + code / 64 % 64),
      UInt8.ofNat (0x80 + code % 64)]
  else
    [UInt8.ofNat (0xF0 + code / 262144), UInt8.ofNat (0x80 + code / 4096 % 64),
      UInt8.ofNat (0x80 + code / 64 % 64), UInt8.ofNat (0x80 + code % 64)]

def encode (text : List Char) : List UInt8 :=
  text.flatMap encodeChar

def encodeString (text : String) : List UInt8 :=
  encode text.toList

end ScanMerge.Text.Utf8
