import ScanMerge.FileUrl.Host
import ScanMerge.Path

/-!
Paths written as `file:` URLs. A text that is such a URL stands for the path that its segments
spell; any other text is itself a path.
-/

set_option autoImplicit false

namespace ScanMerge.FileUrl

/-- Controls and blanks that surround a URL are no part of it. -/
def isControlOrSpace (c : Char) : Bool :=
  c.toNat ≤ 0x20

/-- Tabs and line ends count nowhere in a URL. -/
def isIgnored (c : Char) : Bool :=
  c = '\t' || c = '\n' || c = '\r'

/-- The characters of a text that count when it is read as a URL. -/
def significant (text : List Char) : List Char :=
  let trimmed := ((text.dropWhile isControlOrSpace).reverse.dropWhile isControlOrSpace).reverse
  trimmed.filter fun c => !isIgnored c

/-- What follows `file:`, in any case, at the start of a URL. -/
def afterScheme? (text : List Char) : Option (List Char) :=
  if (text.take 5).map Char.toLower = "file:".toList then some (text.drop 5) else none

def isSlash (c : Char) : Bool :=
  c = '/' || c = '\\'

def endsPath (c : Char) : Bool :=
  c = '?' || c = '#'

/-- The character stands in a path as it is. -/
def isPlain (c : Char) : Bool :=
  0x20 < c.toNat && c.toNat < 0x7F && !"\"#<>?`^|".toList.contains c &&
    c.toNat ≠ 0x7B && c.toNat ≠ 0x7D

/-- A hexadecimal digit, in upper case. -/
def upperHexDigit (value : Nat) : Char :=
  if value < 10 then Char.ofNat (48 + value) else Char.ofNat (55 + value)

def percentByte (byte : UInt8) : List Char :=
  ['%', upperHexDigit (byte.toNat / 16), upperHexDigit (byte.toNat % 16)]

/-- A character of a path, percent-encoded unless it is plain. -/
def encodedChar (c : Char) : List Char :=
  if isPlain c then [c] else (Text.Utf8.encodeChar c).flatMap percentByte

def splitSlashes : List Char → List (List Char)
  | [] => [[]]
  | c :: rest =>
    if isSlash c then [] :: splitSlashes rest
    else
      match splitSlashes rest with
      | [] => [[c]]
      | first :: others => (c :: first) :: others

/-- A segment with its percent-encoded dots resolved. -/
def resolveDots : List Char → List Char
  | '%' :: '2' :: 'e' :: rest => '.' :: resolveDots rest
  | '%' :: '2' :: 'E' :: rest => '.' :: resolveDots rest
  | c :: rest => c :: resolveDots rest
  | [] => []

/-- The segment stays where it is. -/
def isSingleDot (segment : List Char) : Bool :=
  resolveDots segment = ['.']

/-- The segment goes up. -/
def isDoubleDot (segment : List Char) : Bool :=
  resolveDots segment = ['.', '.']

def isDriveLetter (segment : List Char) : Bool :=
  match segment with
  | [letter, ':'] => letter.isAlpha
  | _ => false

/-- A letter with a colon or a bar. -/
def isDriveName (segment : List Char) : Bool :=
  match segment with
  | [letter, ':'] => letter.isAlpha
  | [letter, '|'] => letter.isAlpha
  | _ => false

/-- The segments before a segment that goes up, without the last one. The first one, which is empty,
and a drive letter stay. -/
def goUp (before : List (List Char)) : List (List Char) :=
  if 2 ≤ before.length ∧ ¬ before.getLast?.any isDriveName then before.dropLast else before

/-- Walks over segments: `before` are the ones that a slash follows. -/
def walk (before : List (List Char)) : List (List Char) → List (List Char)
  | [] => before ++ [[]]
  | [last] =>
    if isDoubleDot last then goUp before ++ [[]]
    else if isSingleDot last then before ++ [[]]
    else before ++ [last]
  | segment :: next :: rest =>
    if isDoubleDot segment then walk (goUp before) (next :: rest)
    else if isSingleDot segment then walk before (next :: rest)
    else walk (before ++ [segment]) (next :: rest)

/-- The segments without the empty ones in front. -/
def dropEmptyFront (segments : List (List Char)) : List (List Char) :=
  match segments.dropWhile (· = []) with
  | [] => [[]]
  | kept => kept

/-- The bytes that segments spell, each after a slash. A drive letter at the end has a slash after
it. -/
def spell (segments : List (List Char)) : List UInt8 :=
  let bytes := segments.flatMap fun segment => 0x2F :: percentDecode segment
  match bytes.reverse with
  | last :: letter :: _ :: _ =>
    if (last = 0x3A ∨ last = 0x7C) ∧ (Char.ofNat letter.toNat).isAlpha then bytes ++ [0x2F]
    else bytes
  | _ => bytes

/-- The bytes of segments as the URL writes them, each after a slash. -/
def spellEncoded (segments : List (List Char)) : List UInt8 :=
  segments.flatMap fun segment => 0x2F :: Text.Utf8.encode segment

def encodedSegments (path : List Char) : List (List Char) :=
  (splitSlashes path).map fun segment => segment.flatMap encodedChar

/-- The path of a URL: its host, if any, and the segments of its path, which starts with a slash
when `rooted` holds of nothing before it. A drive letter among the segments removes the host. -/
def pathOf (host : Option Host) (before : List (List Char)) (path : List Char) : Path :=
  let encoded := encodedSegments path
  let segments := dropEmptyFront (walk before encoded)
  if host = some .other ∧ ¬ encoded.any isDriveLetter then ⟨spellEncoded segments⟩
  else ⟨spell segments⟩

/-- The path of a URL after `file://`. A drive letter in the place of a host belongs to the path. -/
def pathAfterSlashes? (text : List Char) : Option Path :=
  let host := text.takeWhile fun c => !isSlash c && !endsPath c
  let rest := (text.drop host.length).takeWhile fun c => !endsPath c
  if isDriveName host then
    some (pathOf none [[]] (text.takeWhile fun c => !endsPath c))
  else if host = [] then
    some (pathOf none [] rest)
  else
    (Host.ofText? host).map fun found =>
      match found with
      | .localhost => pathOf none [] rest
      | .other => pathOf (some .other) [[]] (rest.drop 1)

def pathAfterScheme? (text : List Char) : Option Path :=
  match text with
  | first :: second :: rest =>
    if isSlash first ∧ isSlash second then pathAfterSlashes? rest
    else if isSlash first then
      some (pathOf none [] ((first :: second :: rest).takeWhile fun c => !endsPath c))
    else some (pathOf none [[]] ((first :: second :: rest).takeWhile fun c => !endsPath c))
  | few =>
    if few.any isSlash then some (pathOf none [] few)
    else some (pathOf none [[]] (few.takeWhile fun c => !endsPath c))

/-- The path of a `file:` URL; none for any other text. -/
def path? (text : List Char) : Option Path :=
  (afterScheme? (significant text)).bind pathAfterScheme?

end FileUrl

/-- The path that a URI names: the one of a `file:` URL, and otherwise the text itself. -/
def Path.ofUri (uri : String) : Path :=
  (FileUrl.path? uri.toList).getD (Path.ofString uri)

end ScanMerge
