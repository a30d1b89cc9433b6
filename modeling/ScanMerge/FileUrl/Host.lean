import ScanMerge.Text.Lowercase
import ScanMerge.Text.Utf8

/-!
Hosts of URLs: domain names, IPv4 addresses and IPv6 addresses in brackets. What matters of a host
is whether it is one, and whether it is the local host. Of the rules for international domain names
(IDNA) only a part is here; `isExcluded`, `preferredChar` and `domain?` say what is left out.
-/

set_option autoImplicit false

namespace ScanMerge.FileUrl

def hexValue? (c : Char) : Option Nat :=
  if '0' ≤ c ∧ c ≤ '9' then some (c.toNat - 48)
  else if 'a' ≤ c ∧ c ≤ 'f' then some (c.toNat - 87)
  else if 'A' ≤ c ∧ c ≤ 'F' then some (c.toNat - 55)
  else none

/-- The bytes of a text in which `%` with two hexadecimal digits stands for a byte. -/
def percentDecode : List Char → List UInt8
  | [] => []
  | '%' :: high :: low :: rest =>
    match hexValue? high, hexValue? low with
    | some high, some low => UInt8.ofNat (16 * high + low) :: percentDecode rest
    | _, _ => 0x25 :: percentDecode (high :: low :: rest)
  | c :: rest => Text.Utf8.encodeChar c ++ percentDecode rest

def splitAt (separator : Char) : List Char → List (List Char)
  | [] => [[]]
  | c :: rest =>
    if c = separator then [] :: splitAt separator rest
    else
      match splitAt separator rest with
      | [] => [[c]]
      | first :: others => (c :: first) :: others

/-! ### Internet addresses -/

def numberInBase (base : Nat) (digits : List Char) : Option Nat :=
  digits.foldlM (fun value c =>
    (hexValue? c).bind fun digit => if digit < base then some (value * base + digit) else none) 0

/-- A part of an IPv4 address: decimal, octal after a zero or hexadecimal after `0x`. -/
def addressNumber? (text : List Char) : Option Nat :=
  match text with
  | [] => none
  | '0' :: 'x' :: digits => numberInBase 16 digits
  | '0' :: 'X' :: digits => numberInBase 16 digits
  | '0' :: digit :: digits => numberInBase 8 (digit :: digits)
  | digits => numberInBase 10 digits

/-- The labels of a domain without the empty one after a final dot. -/
def domainLabels (domain : List Char) : List (List Char) :=
  let labels := splitAt '.' domain
  if 1 < labels.length ∧ labels.getLast? = some [] then labels.dropLast else labels

/-- The last label of the domain is a number, so the domain is an address. -/
def endsInNumber (domain : List Char) : Bool :=
  match (domainLabels domain).getLast? with
  | some label => (label ≠ [] && label.all Char.isDigit) || (addressNumber? label).isSome
  | none => false

/-- The domain is an IPv4 address: up to four numbers, the last of which fills the bytes that are
left. -/
def isAddress4 (domain : List Char) : Bool :=
  let labels := domainLabels domain
  match labels.mapM addressNumber? with
  | none => false
  | some numbers =>
    labels.length ≤ 4 && numbers.dropLast.all (· < 256) &&
      numbers.getLast?.all (· < Nat.pow 256 (5 - labels.length))

/-- A part of a dotted address inside brackets: decimal without leading zeros. -/
def isDottedPart (text : List Char) : Bool :=
  text.all Char.isDigit && (text = ['0'] || text.head?.any (· ≠ '0')) &&
    (numberInBase 10 text).any (· < 256)

/-- The number of 16-bit pieces that a run of pieces makes up; the last one may be a dotted
address. -/
def pieceCount? (last : Bool) : List (List Char) → Option Nat
  | [] => some 0
  | [piece] =>
    if piece ≠ [] ∧ piece.length ≤ 4 ∧ piece.all (fun c => (hexValue? c).isSome) then some 1
    else if last ∧ (splitAt '.' piece).length = 4 ∧ (splitAt '.' piece).all isDottedPart then some 2
    else none
  | piece :: next :: rest =>
    if piece ≠ [] ∧ piece.length ≤ 4 ∧ piece.all (fun c => (hexValue? c).isSome) then
      (pieceCount? last (next :: rest)).map (· + 1)
    else none

/-- The pieces between colons, none for an empty text. -/
def colonPieces (text : List Char) : List (List Char) :=
  if text = [] then [] else splitAt ':' text

/-- The texts before and after the first double colon. -/
def splitDoubleColon : List Char → Option (List Char × List Char)
  | ':' :: ':' :: rest => some ([], rest)
  | [] => none
  | c :: rest => (splitDoubleColon rest).map fun parts => (c :: parts.1, parts.2)

/-- The text is an IPv6 address: eight pieces, or fewer with a double colon for the others. -/
def isAddress6 (text : List Char) : Bool :=
  match splitDoubleColon text with
  | none => pieceCount? true (colonPieces text) = some 8
  | some (before, after) =>
    match pieceCount? false (colonPieces before), pieceCount? true (colonPieces after) with
    | some front, some back => front + back ≤ 7
    | _, _ => false

/-! ### Domains -/

/-- The value of a digit in the encoding of labels. -/
def labelDigit? (c : Char) : Option Nat :=
  if 'a' ≤ c ∧ c ≤ 'z' then some (c.toNat - 97)
  else if '0' ≤ c ∧ c ≤ '9' then some (c.toNat - 22)
  else none

def labelThreshold (position bias : Nat) : Nat :=
  max 1 (min 26 (36 * position - bias))

/-- A generalised variable-length integer whose digits so far have the given weight. -/
def labelInteger? (bias position weight value : Nat) : List Char → Option (Nat × List Char)
  | [] => none
  | c :: rest =>
    match labelDigit? c with
    | none => none
    | some digit =>
      let threshold := labelThreshold (position + 1) bias
      if digit < threshold then some (value + digit * weight, rest)
      else
        labelInteger? bias (position + 1) (weight * (36 - threshold)) (value + digit * weight) rest

/-- The number of divisions and the rest of a delta. -/
def reduceDelta (delta steps : Nat) : Nat × Nat :=
  if 455 < delta then reduceDelta (delta / 35) (steps + 1) else (steps, delta)
termination_by delta

def adaptBias (delta count : Nat) (first : Bool) : Nat :=
  let damped := if first then delta / 700 else delta / 2
  let (steps, rest) := reduceDelta (damped + damped / count) 0
  36 * steps + 36 * rest / (rest + 38)

/-- The code points that the deltas of a label add to `count` ones, each checked to be a character
above ASCII. -/
def labelAdditions? (bias index code count : Nat) (first : Bool) (input : List Char) :
    Option Nat :=
  match input with
  | [] => some count
  | c :: rest =>
    match labelInteger? bias 0 1 0 (c :: rest) with
    | none => none
    | some (delta, after) =>
      if shorter : after.length < (c :: rest).length then
        let position := index + delta
        let next := code + position / (count + 1)
        if next < 0x110000 ∧ ¬ (0xD800 ≤ next ∧ next ≤ 0xDFFF) then
          labelAdditions? (adaptBias delta (count + 1) first) (position % (count + 1) + 1) next
            (count + 1) false after
        else none
      else none
termination_by input.length
decreasing_by exact shorter

/-- The label after `xn--` encodes characters above ASCII. -/
def isEncodedLabel (label : List Char) : Bool :=
  let reversed := label.reverse
  let deltas := (reversed.takeWhile (· ≠ '-')).reverse
  let basic := ((reversed.dropWhile (· ≠ '-')).drop 1).reverse
  deltas ≠ [] && (labelAdditions? 72 0 128 basic.length true deltas).isSome

/-- A label that starts with `xn--` encodes characters above ASCII. -/
def isLabel (label : List Char) : Bool :=
  match label with
  | 'x' :: 'n' :: '-' :: '-' :: rest => isEncodedLabel rest
  | _ => true

/-- ASCII characters that no domain holds. -/
def isForbidden (c : Char) : Bool :=
  c.toNat ≤ 0x20 || c.toNat = 0x7F || "#%/:<>?@[\\]^`|".toList.contains c ||
    c.toNat = 0x7B || c.toNat = 0x7D

/-- Characters above ASCII that no domain holds: controls, marks of direction, private use, the
replacement character and other specials. IDNA disallows more of them; unassigned characters and
those disallowed one by one are left out. -/
def isExcluded (c : Char) : Bool :=
  (0x80 ≤ c.toNat && c.toNat ≤ 0x9F) || (0xE000 ≤ c.toNat && c.toNat ≤ 0xF8FF) ||
    (0xFFF0 ≤ c.toNat && c.toNat ≤ 0xFFFF) || (0xE0080 ≤ c.toNat && c.toNat ≤ 0x10FFFF) ||
    (0x200E ≤ c.toNat && c.toNat ≤ 0x200F) || (0x2028 ≤ c.toNat && c.toNat ≤ 0x202E)

/-- A character of a domain in its preferred form, by a part of the mapping of IDNA: full-width
forms become ASCII, ideographic full stops dots, wide spaces spaces, and soft hyphens and the like
vanish. The mapping of other compatibility characters is left out, and so is case folding where it
is more than lowercase. -/
def preferredChar (c : Char) : List Char :=
  let code := c.toNat
  if 0xFF01 ≤ code ∧ code ≤ 0xFF5E then [(Char.ofNat (code - 0xFEE0)).toLower]
  else if code = 0x3002 ∨ code = 0xFF61 then ['.']
  else if code = 0x3000 ∨ code = 0xA0 then [' ']
  else if [0xAD, 0x200B, 0x2060, 0xFEFF].contains code ∨ (0xFE00 ≤ code ∧ code ≤ 0xFE0F) then []
  else [c]

inductive Host where
  | localhost
  | other
  deriving DecidableEq, Repr

/-- The domain in its preferred form; none when it is no domain. Left out are normalisation, the
rules for joiners, for combining marks that start a label and for labels written in both directions,
and the check of the characters that an encoded label stands for. What breaks only these rules
counts as a domain here. -/
def domain? (text : List Char) : Option (List Char) :=
  let lowercase := Text.lowercase (Text.Utf8.decodeLossy (percentDecode text))
  let preferred := lowercase.flatMap preferredChar
  if preferred.any isForbidden ∨ preferred.any isExcluded ∨
      ¬ (splitAt '.' preferred).all isLabel then none
  else some preferred

def Host.ofText? (text : List Char) : Option Host :=
  match text with
  | '[' :: rest =>
    if rest.getLast? = some ']' ∧ isAddress6 rest.dropLast then some .other else none
  | _ =>
    match domain? text with
    | none => none
    | some domain =>
      if domain = [] then none
      else if endsInNumber domain then if isAddress4 domain then some .other else none
      else if domain = "localhost".toList then some .localhost
      else some .other

end ScanMerge.FileUrl
