/-!
The SHA-256 digest of a byte string, written as 64 hexadecimal digits.
-/

set_option autoImplicit false

namespace ScanMerge.Digest

/-- The round constants: the first 32 bits of the fractional parts of the cube roots of the first 64
primes. -/
def roundConstants : List UInt32 :=
  [0x428a2f98, 0x71374491, 0xb5c0fbcf, 0xe9b5dba5, 0x3956c25b, 0x59f111f1, 0x923f82a4, 0xab1c5ed5,
   0xd807aa98, 0x12835b01, 0x243185be, 0x550c7dc3, 0x72be5d74, 0x80deb1fe, 0x9bdc06a7, 0xc19bf174,
   0xe49b69c1, 0xefbe4786, 0x0fc19dc6, 0x240ca1cc, 0x2de92c6f, 0x4a7484aa, 0x5cb0a9dc, 0x76f988da,
   0x983e5152, 0xa831c66d, 0xb00327c8, 0xbf597fc7, 0xc6e00bf3, 0xd5a79147, 0x06ca6351, 0x14292967,
   0x27b70a85, 0x2e1b2138, 0x4d2c6dfc, 0x53380d13, 0x650a7354, 0x766a0abb, 0x81c2c92e, 0x92722c85,
   0xa2bfe8a1, 0xa81a664b, 0xc24b8b70, 0xc76c51a3, 0xd192e819, 0xd6990624, 0xf40e3585, 0x106aa070,
   0x19a4c116, 0x1e376c08, 0x2748774c, 0x34b0bcb5, 0x391c0cb3, 0x4ed8aa4a, 0x5b9cca4f, 0x682e6ff3,
   0x748f82ee, 0x78a5636f, 0x84c87814, 0x8cc70208, 0x90befffa, 0xa4506ceb, 0xbef9a3f7, 0xc67178f2]

/-- The eight words of a digest under way. -/
structure Words where
  a : UInt32
  b : UInt32
  c : UInt32
  d : UInt32
  e : UInt32
  f : UInt32
  g : UInt32
  h : UInt32
  deriving DecidableEq, Repr

/-- The words before the first block: the first 32 bits of the fractional parts of the square roots
of the first eight primes. -/
def Words.start : Words :=
  ⟨0x6a09e667, 0xbb67ae85, 0x3c6ef372, 0xa54ff53a, 0x510e527f, 0x9b05688c, 0x1f83d9ab, 0x5be0cd19⟩

def Words.toList (words : Words) : List UInt32 :=
  [words.a, words.b, words.c, words.d, words.e, words.f, words.g, words.h]

def Words.add (x y : Words) : Words :=
  ⟨x.a + y.a, x.b + y.b, x.c + y.c, x.d + y.d, x.e + y.e, x.f + y.f, x.g + y.g, x.h + y.h⟩

/-- A word turned right by `count` bits, `0 < count < 32`. -/
def rotateRight (word count : UInt32) : UInt32 :=
  (word >>> count) ||| (word <<< (32 - count))

/-- The next word of a message schedule whose last sixteen words are given, oldest first. -/
def scheduleWord (window : List UInt32) : UInt32 :=
  let w0 := window.getD 0 0
  let w1 := window.getD 1 0
  let w9 := window.getD 9 0
  let w14 := window.getD 14 0
  let small0 := rotateRight w1 7 ^^^ rotateRight w1 18 ^^^ (w1 >>> 3)
  let small1 := rotateRight w14 17 ^^^ rotateRight w14 19 ^^^ (w14 >>> 10)
  w0 + small0 + w9 + small1

/-- One round, with the round constant and the word of the schedule. -/
def Words.round (words : Words) (constant word : UInt32) : Words :=
  let big1 := rotateRight words.e 6 ^^^ rotateRight words.e 11 ^^^ rotateRight words.e 25
  let choice := (words.e &&& words.f) ^^^ (~~~words.e &&& words.g)
  let first := words.h + big1 + choice + constant + word
  let big0 := rotateRight words.a 2 ^^^ rotateRight words.a 13 ^^^ rotateRight words.a 22
  let majority := (words.a &&& words.b) ^^^ (words.a &&& words.c) ^^^ (words.b &&& words.c)
  ⟨first + (big0 + majority), words.a, words.b, words.c, words.d + first, words.e, words.f, words.g⟩

/-- The rounds with the given constants, the last sixteen words of the schedule being at hand. -/
def rounds (window : List UInt32) (words : Words) : List UInt32 → Words
  | [] => words
  | constant :: rest =>
    rounds (window.drop 1 ++ [scheduleWord window])
      (words.round constant (window.getD 0 0)) rest

/-- The big-endian words of a byte string, whose length is a multiple of four. -/
def bigEndianWords : List UInt8 → List UInt32
  | a :: b :: c :: d :: rest =>
    (a.toUInt32 <<< 24 ||| b.toUInt32 <<< 16 ||| c.toUInt32 <<< 8 ||| d.toUInt32) ::
      bigEndianWords rest
  | _ => []

/-- The big-endian bytes of a number below `256 ^ count`. -/
def bigEndianBytes (value : Nat) : Nat → List UInt8
  | 0 => []
  | count + 1 => bigEndianBytes (value / 256) count ++ [UInt8.ofNat value]

/-- The bytes after a message of the given length: a one bit, zero bits up to 56 bytes in the last
block of 64, and the length in bits. -/
def padding (length : Nat) : List UInt8 :=
  0x80 :: List.replicate ((119 - length % 64) % 64) 0 ++ bigEndianBytes (8 * length) 8

/-- Takes in `count` blocks of sixteen words. -/
def absorb (words : Words) (message : List UInt32) : Nat → Words
  | 0 => words
  | count + 1 =>
    absorb (words.add (rounds (message.take 16) words roundConstants)) (message.drop 16) count

def digestWords (message : List UInt8) : Words :=
  let padded := bigEndianWords (message ++ padding message.length)
  absorb Words.start padded (padded.length / 16)

/-- A hexadecimal digit, in lower case. -/
def hexDigit (value : Nat) : Char :=
  if value < 10 then Char.ofNat (48 + value) else Char.ofNat (87 + value)

/-- A byte in two hexadecimal digits. -/
def hexByte (byte : UInt8) : List Char :=
  [hexDigit (byte.toNat / 16), hexDigit (byte.toNat % 16)]

def digestBytes (message : List UInt8) : List UInt8 :=
  (digestWords message).toList.flatMap fun word => bigEndianBytes word.toNat 4

end Digest

/-- The SHA-256 digest of a message in lower-case hexadecimal digits. -/
def digest (message : List UInt8) : String :=
  String.ofList ((Digest.digestBytes message).flatMap Digest.hexByte)

end ScanMerge
