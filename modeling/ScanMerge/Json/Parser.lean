import ScanMerge.Json.Mismatch
import ScanMerge.Rest
import ScanMerge.Text.Utf8

/-!
Reading JSON text. A reader takes a byte string apart from the left and answers a value with the
rest, which is shorter, or a fault with the number of bytes that were left when it showed. The line
and the column of a fault follow from that number.
-/

set_option autoImplicit false

namespace ScanMerge.Json

/-- Why a text is not JSON, or not the JSON that is expected. -/
inductive Fault where
  | eofInList
  | eofInObject
  | eofInString
  | eofInValue
  | expectedColon
  | expectedListCommaOrEnd
  | expectedObjectCommaOrEnd
  | expectedIdent
  | expectedValue
  | invalidEscape
  | invalidNumber
  | numberOutOfRange
  | invalidCodePoint
  | controlCharacter
  | keyMustBeString
  | loneSurrogate
  | unexpectedEndOfEscape
  | trailingComma
  | trailingCharacters
  | nestedTooDeep
  | unexpected (mismatch : Mismatch)
  deriving DecidableEq, Repr

def Fault.message : Fault → String
  | .eofInList => "EOF while parsing a list"
  | .eofInObject => "EOF while parsing an object"
  | .eofInString => "EOF while parsing a string"
  | .eofInValue => "EOF while parsing a value"
  | .expectedColon => "expected `:`"
  | .expectedListCommaOrEnd => "expected `,` or `]`"
  | .expectedObjectCommaOrEnd => "expected `,` or `\x7d`"
  | .expectedIdent => "expected ident"
  | .expectedValue => "expected value"
  | .invalidEscape => "invalid escape"
  | .invalidNumber => "invalid number"
  | .numberOutOfRange => "number out of range"
  | .invalidCodePoint => "invalid unicode code point"
  | .controlCharacter => "control character (\\u0000-\\u001F) found while parsing a string"
  | .keyMustBeString => "key must be a string"
  | .loneSurrogate => "lone leading surrogate in hex escape"
  | .unexpectedEndOfEscape => "unexpected end of hex escape"
  | .trailingComma => "trailing comma"
  | .trailingCharacters => "trailing characters"
  | .nestedTooDeep => "recursion limit exceeded"
  | .unexpected mismatch => mismatch.message

/-- A fault and the number of bytes after it. -/
structure Stop where
  fault : Fault
  left : Nat
  deriving DecidableEq, Repr

/-- What a reader makes of an input: a value and a shorter rest, or a fault. -/
abbrev Reading (α : Type) (input : List UInt8) : Type :=
  Except Stop (α × Rest input)

def Reading.ofEnd {α : Type} {input inner : List UInt8} (bound : NotLonger inner input) :
    Reading α inner → Reading α input
  | .error stop => .error stop
  | .ok (value, ⟨rest, shorter⟩) => .ok (value, ⟨rest, shorter.trans_notLonger bound⟩)

/-- A fault that shows at the first byte of what is left, or at the end. -/
def stopAt {α : Type} (fault : Fault) (rest : List UInt8) : Except Stop α :=
  .error ⟨fault, rest.length - 1⟩

/-- A fault that shows before what is left. -/
def stopBefore {α : Type} (fault : Fault) (rest : List UInt8) : Except Stop α :=
  .error ⟨fault, rest.length⟩

/-- The four bytes that count as blanks. -/
def isSpace (byte : UInt8) : Bool :=
  byte = 0x20 || byte = 0x0A || byte = 0x09 || byte = 0x0D

/-- The input after its leading blanks. -/
def skipSpaces (input : List UInt8) : List UInt8 :=
  input.dropWhile isSpace

theorem notLonger_skipSpaces (input : List UInt8) : NotLonger (skipSpaces input) input :=
  notLonger_dropWhile isSpace input

section

variable {byte : UInt8} {input rest last : List UInt8}

theorem notLonger_of_skipSpaces (shape : skipSpaces input = byte :: rest) :
    NotLonger (byte :: rest) input :=
  shape ▸ notLonger_skipSpaces input

theorem shorter_of_skipSpaces (shape : skipSpaces input = byte :: rest) : Shorter rest input :=
  shorter_cons_self.trans_notLonger (notLonger_of_skipSpaces shape)

theorem shorter_behind_spaces (shape : skipSpaces input = byte :: rest)
    (shorter : Shorter last (byte :: rest)) : Shorter last input :=
  shorter.trans_notLonger (notLonger_of_skipSpaces shape)

end

def isDigit (byte : UInt8) : Bool :=
  0x30 ≤ byte && byte ≤ 0x39

def digitValue (byte : UInt8) : Nat :=
  byte.toNat - 0x30

def hexValue? (byte : UInt8) : Option Nat :=
  if 0x30 ≤ byte && byte ≤ 0x39 then some (byte.toNat - 0x30)
  else if 0x41 ≤ byte && byte ≤ 0x46 then some (byte.toNat - 0x37)
  else if 0x61 ≤ byte && byte ≤ 0x66 then some (byte.toNat - 0x57)
  else none

/-! ### Strings -/

def readHex : (input : List UInt8) → Reading Nat input
  | a :: b :: c :: d :: rest =>
    match hexValue? a, hexValue? b, hexValue? c, hexValue? d with
    | some a, some b, some c, some d =>
      .ok (a * 4096 + b * 256 + c * 16 + d, Rest.tail.cons.cons.cons)
    | _, _, _, _ => stopBefore .invalidEscape rest
  | _ => stopBefore .eofInString []

/-- The second half of a surrogate pair whose first half was `high`. -/
def readLowSurrogate (high : Nat) : (input : List UInt8) → Reading Char input
  | [] => stopBefore .eofInString []
  | backslash :: afterBackslash =>
    if backslash ≠ 0x5C then stopBefore .unexpectedEndOfEscape afterBackslash
    else
      match afterBackslash with
      | [] => stopBefore .eofInString []
      | letter :: afterLetter =>
        if letter ≠ 0x75 then stopBefore .unexpectedEndOfEscape afterLetter
        else
          match readHex afterLetter with
          | .error stop => .error stop
          | .ok (low, rest) =>
            if 0xDC00 ≤ low ∧ low ≤ 0xDFFF then
              .ok (Char.ofNat (0x10000 + (high - 0xD800) * 0x400 + (low - 0xDC00)),
                rest.cons.cons)
            else
              stopBefore .loneSurrogate rest.val

/-- What stands after `\u`. -/
def readCodePoint (input : List UInt8) : Reading Char input :=
  match readHex input with
  | .error stop => .error stop
  | .ok (code, ⟨rest, shorter⟩) =>
    if 0xDC00 ≤ code ∧ code ≤ 0xDFFF then stopBefore .loneSurrogate rest
    else if 0xD800 ≤ code ∧ code ≤ 0xDBFF then
      match readLowSurrogate code rest with
      | .error stop => .error stop
      | .ok (c, ⟨rest', shorter'⟩) => .ok (c, ⟨rest', shorter'.trans shorter⟩)
    else
      .ok (Char.ofNat code, ⟨rest, shorter⟩)

def simpleEscape? (letter : UInt8) : Option Char :=
  if letter = 0x22 then some '"'
  else if letter = 0x5C then some '\\'
  else if letter = 0x2F then some '/'
  else if letter = 0x62 then some (Char.ofNat 8)
  else if letter = 0x66 then some (Char.ofNat 12)
  else if letter = 0x6E then some '\n'
  else if letter = 0x72 then some '\r'
  else if letter = 0x74 then some '\t'
  else none

/-- What stands after a backslash. -/
def readEscape : (input : List UInt8) → Reading Char input
  | [] => stopBefore .eofInString []
  | letter :: rest =>
    if letter = 0x75 then
      match readCodePoint rest with
      | .error stop => .error stop
      | .ok (c, after) => .ok (c, after.cons)
    else
      match simpleEscape? letter with
      | some c => .ok (c, Rest.tail)
      | none => stopBefore .invalidEscape rest

/-- The bytes of a string after its opening quote, with their escapes resolved. -/
def readStringBytes : (input : List UInt8) → Reading (List UInt8) input
  | [] => stopBefore .eofInString []
  | byte :: rest =>
    if byte = 0x22 then .ok ([], Rest.tail)
    else if byte = 0x5C then
      match readEscape rest with
      | .error stop => .error stop
      | .ok (c, ⟨rest', shorter⟩) =>
        match readStringBytes rest' with
        | .error stop => .error stop
        | .ok (bytes, ⟨rest'', shorter'⟩) =>
          .ok (Text.Utf8.encodeChar c ++ bytes, ⟨rest'', (shorter'.trans shorter).cons⟩)
    else if byte < 0x20 then stopBefore .controlCharacter rest
    else
      match readStringBytes rest with
      | .error stop => .error stop
      | .ok (bytes, after) => .ok (byte :: bytes, after.cons)
termination_by input => input.length
decreasing_by
  · exact shorter.cons
  · exact shorter_cons_self

/-- The byte ends a run of characters that stand for themselves. -/
def endsPlain (byte : UInt8) : Bool :=
  byte = 0x22 || byte = 0x5C

/-- The input from the first byte in a string that is not UTF-8. The string starts with the input.
-/
def fromInvalid (input : List UInt8) : List UInt8 :=
  match Text.Utf8.fault? (input.takeWhile fun byte => !endsPlain byte) with
  | some fault => input.drop fault.index
  | none =>
    match shape : input.dropWhile fun byte => !endsPlain byte with
    | 0x5C :: _ :: rest =>
      have : Shorter rest input := by
        have := notLonger_dropWhile (fun byte => !endsPlain byte) input
        rw [shape] at this
        exact shorter_cons_self.cons.trans_notLonger this
      fromInvalid rest
    | _ => []
termination_by input.length

/-- A string after its opening quote. -/
def readString (input : List UInt8) : Reading String input :=
  match readStringBytes input with
  | .error stop => .error stop
  | .ok (bytes, rest) =>
    match Text.Utf8.decode? bytes with
    | some text => .ok (String.ofList text, rest)
    | none => stopAt .invalidCodePoint (fromInvalid input)

/-! ### Numbers -/

def greatestWord : Nat := UInt64.size - 1

/-- The least integer of 64 bits with a sign is the negative of this. -/
def signedBound : Nat := Nat.pow 2 63

/-- The greatest exponent that is read digit by digit. -/
def greatestExponent : Nat := Nat.pow 2 31 - 1

/-- Sums of exponents stay within 32 bits. -/
def clampExponent (exponent : Int) : Int :=
  max (-(greatestExponent : Int) - 1) (min greatestExponent exponent)

/-- The greatest power of ten that is a double has this exponent. -/
def greatestPower : Nat := 308

/-- A double divided by the greatest power of ten so many times, unless it is zero before. -/
def lowered? (value : Decimal.Double) : Nat → Option Decimal.Double
  | 0 => some value
  | steps + 1 =>
    if value.significand = 0 then some value
    else
      ((Decimal.Double.powerOfTen? greatestPower).bind value.over?).bind (lowered? · steps)

/-- A double scaled by a power of ten. A power that is no double is reached by steps of the greatest
one, each of which is rounded; none when the result is too great. -/
def scaleByTen (value : Decimal.Double) (exponent : Int) : Option Decimal.Double :=
  if exponent < 0 then
    let steps := (exponent.natAbs - 1) / greatestPower
    (lowered? value steps).bind fun smaller =>
      (Decimal.Double.powerOfTen? (exponent.natAbs - steps * greatestPower)).bind smaller.over?
  else if exponent.natAbs ≤ greatestPower then
    (Decimal.Double.powerOfTen? exponent.natAbs).bind value.times?
  else if value.significand = 0 then some value
  else none

/-- The number `± significand · 10 ^ exponent`, as the double that scaling gives. -/
def doubleOf (negative : Bool) (significand : Nat) (exponent : Int) (rest : List UInt8) :
    Except Stop Json :=
  match (Decimal.Double.ofNat? negative significand).bind (scaleByTen · exponent) with
  | some value => .ok (.double value)
  | none => stopBefore .numberOutOfRange rest

/-- The digits of an exponent after the first; none of them once the exponent grows too great. -/
def exponentDigits (value : Nat) : List UInt8 → Option Nat × List UInt8
  | [] => (some value, [])
  | byte :: rest =>
    if isDigit byte then
      if greatestExponent < value * 10 + digitValue byte then (none, rest)
      else exponentDigits (value * 10 + digitValue byte) rest
    else
      (some value, byte :: rest)

theorem notLonger_exponentDigits (value : Nat) (input : List UInt8) :
    NotLonger (exponentDigits value input).2 input := by
  induction input generalizing value with
  | nil => exact .refl
  | cons byte rest ih =>
    simp only [exponentDigits]
    split
    · split
      · exact notLonger_cons_self
      · exact (ih _).cons
    · exact .refl

theorem notLonger_of_exponentDigits {value : Nat} {input rest : List UInt8} {exponent : Option Nat}
    (reading : exponentDigits value input = (exponent, rest)) : NotLonger rest input := by
  have := notLonger_exponentDigits value input
  rwa [reading] at this

/-- The input after a sign, if one is there. -/
def unsigned : (input : List UInt8) → List UInt8
  | [] => []
  | byte :: rest => if byte = 0x2B ∨ byte = 0x2D then rest else byte :: rest

theorem notLonger_unsigned (input : List UInt8) : NotLonger (unsigned input) input := by
  cases input with
  | nil => exact .refl
  | cons byte rest =>
    simp only [unsigned]
    split
    · exact notLonger_cons_self
    · exact .refl

theorem notLonger_of_unsigned {first : UInt8} {input rest : List UInt8}
    (shape : unsigned input = first :: rest) : NotLonger (first :: rest) input :=
  shape ▸ notLonger_unsigned input

/-- What stands after the `e` of a number. -/
def readExponent (negative : Bool) (significand : Nat) (start : Int) (input : List UInt8) :
    Except Stop (Json × Remainder input) :=
  let negativeExponent := input.head? = some 0x2D
  match shape : unsigned input with
  | [] => stopBefore .eofInValue []
  | first :: rest =>
    have bound := notLonger_of_unsigned shape
    if isDigit first then
      match reading : exponentDigits (digitValue first) rest with
      | (some exponent, after) =>
        have notLonger := notLonger_of_exponentDigits reading
        let total := if negativeExponent then start - exponent else start + exponent
        match doubleOf negative significand (clampExponent total) after with
        | .ok value => .ok (value, ⟨after, notLonger.cons.trans bound⟩)
        | .error stop => .error stop
      | (none, after) =>
        have notLonger := notLonger_of_exponentDigits reading
        if significand ≠ 0 ∧ ¬ negativeExponent then stopBefore .numberOutOfRange after
        else
          have past := notLonger_dropWhile isDigit after
          .ok (.double (.zero negative),
            ⟨after.dropWhile isDigit, (past.trans notLonger).cons.trans bound⟩)
    else
      stopBefore .invalidNumber rest

/-- The end of a number whose digits make up `significand · 10 ^ exponent`: an exponent or
nothing. -/
def readScaled (negative : Bool) (significand : Nat) (exponent : Int) (input : List UInt8) :
    Except Stop (Json × Remainder input) :=
  match input with
  | byte :: rest =>
    if byte = 0x65 ∨ byte = 0x45 then
      match readExponent negative significand exponent rest with
      | .ok (value, after) => .ok (value, after.cons)
      | .error stop => .error stop
    else
      (doubleOf negative significand exponent (byte :: rest)).map fun value =>
        (value, Remainder.all)
  | [] => (doubleOf negative significand exponent []).map fun value => (value, Remainder.all)

/-- The fraction digits that still fit a word, each of which lowers the exponent by one, and whether
one did not fit. -/
def fractionDigits (significand : Nat) (exponent : Int) :
    List UInt8 → (Nat × Int × Bool) × List UInt8
  | [] => ((significand, exponent, false), [])
  | byte :: rest =>
    if isDigit byte then
      if greatestWord < significand * 10 + digitValue byte then
        ((significand, exponent, true), rest.dropWhile isDigit)
      else
        fractionDigits (significand * 10 + digitValue byte) (exponent - 1) rest
    else
      ((significand, exponent, false), byte :: rest)

theorem notLonger_fractionDigits (significand : Nat) (exponent : Int) (input : List UInt8) :
    NotLonger (fractionDigits significand exponent input).2 input := by
  induction input generalizing significand exponent with
  | nil => exact .refl
  | cons byte rest ih =>
    simp only [fractionDigits]
    split
    · split
      · exact (notLonger_dropWhile isDigit rest).cons
      · exact (ih _ _).cons
    · exact .refl

theorem notLonger_of_fractionDigits {significand : Nat} {exponent : Int} {input rest : List UInt8}
    {digits : Nat × Int × Bool}
    (reading : fractionDigits significand exponent input = (digits, rest)) :
    NotLonger rest input := by
  have := notLonger_fractionDigits significand exponent input
  rwa [reading] at this

/-- What stands after the decimal point of a number. -/
def readFraction (negative : Bool) (significand : Nat) (exponent : Int) (input : List UInt8) :
    Except Stop (Json × Remainder input) :=
  match reading : fractionDigits significand exponent input with
  | ((value, lowered, overflowed), rest) =>
    have notLonger := notLonger_of_fractionDigits reading
    if lowered = exponent ∧ ¬ overflowed then
      if rest.isEmpty then stopBefore .eofInValue [] else stopAt .invalidNumber rest
    else
      match readScaled negative value lowered rest with
      | .ok (json, ⟨after, bound⟩) => .ok (json, ⟨after, bound.trans notLonger⟩)
      | .error stop => .error stop

/-- The digits of an integer that fit a word, and those that do not. -/
def integerDigits (significand : Nat) : List UInt8 → Nat × Nat × List UInt8
  | [] => (significand, 0, [])
  | byte :: rest =>
    if isDigit byte then
      if greatestWord < significand * 10 + digitValue byte then
        (significand, 1 + (rest.takeWhile isDigit).length, rest.dropWhile isDigit)
      else
        integerDigits (significand * 10 + digitValue byte) rest
    else
      (significand, 0, byte :: rest)

theorem notLonger_integerDigits (significand : Nat) (input : List UInt8) :
    NotLonger (integerDigits significand input).2.2 input := by
  induction input generalizing significand with
  | nil => exact .refl
  | cons byte rest ih =>
    simp only [integerDigits]
    split
    · split
      · exact (notLonger_dropWhile isDigit rest).cons
      · exact (ih _).cons
    · exact .refl

theorem notLonger_of_integerDigits {value significand dropped : Nat} {input rest : List UInt8}
    (reading : integerDigits value input = (significand, dropped, rest)) :
    NotLonger rest input := by
  have := notLonger_integerDigits value input
  rwa [reading] at this

/-- An integer that fits a word, with its sign. A negative one below the signed range, and negative
zero, is a double. -/
def wordOf (negative : Bool) (significand : Nat) (rest : List UInt8) : Except Stop Json :=
  if ¬ negative then .ok (.integer significand)
  else if significand = 0 ∨ signedBound < significand then doubleOf true significand 0 rest
  else .ok (.integer (-significand))

/-- What stands after the integer digits of a number: a fraction, an exponent or nothing. `dropped`
digits did not fit a word. -/
def readAfterInteger (negative : Bool) (significand dropped : Nat) (input : List UInt8) :
    Except Stop (Json × Remainder input) :=
  match input with
  | byte :: rest =>
    if byte = 0x2E then
      match readFraction negative significand dropped rest with
      | .ok (json, after) => .ok (json, after.cons)
      | .error stop => .error stop
    else if byte = 0x65 ∨ byte = 0x45 ∨ dropped ≠ 0 then
      readScaled negative significand dropped (byte :: rest)
    else
      (wordOf negative significand (byte :: rest)).map fun value => (value, Remainder.all)
  | [] =>
    let value :=
      if dropped = 0 then wordOf negative significand []
      else doubleOf negative significand dropped []
    value.map fun value => (value, Remainder.all)

/-- A number after its sign. -/
def readNumber (negative : Bool) : (input : List UInt8) → Reading Json input
  | [] => stopBefore .eofInValue []
  | first :: rest =>
    if first = 0x30 then
      if (rest.head?.map isDigit).getD false then stopAt .invalidNumber rest
      else
        match readAfterInteger negative 0 0 rest with
        | .ok (json, after) => .ok (json, after.past)
        | .error stop => .error stop
    else if isDigit first then
      match reading : integerDigits (digitValue first) rest with
      | (significand, dropped, after) =>
        have notLonger := notLonger_of_integerDigits reading
        match readAfterInteger negative significand dropped after with
        | .ok (json, ⟨after', bound⟩) =>
          .ok (json, ⟨after', (bound.trans notLonger).shorter_cons⟩)
        | .error stop => .error stop
    else
      stopBefore .invalidNumber rest

/-! ### Values -/

/-- The given bytes, which end a word such as `null`. -/
def readIdent : (expected input : List UInt8) →
    Except Stop (Remainder input)
  | [], _ => .ok Remainder.all
  | _ :: _, [] => stopBefore .eofInValue []
  | byte :: expected, first :: rest =>
    if first = byte then
      match readIdent expected rest with
      | .ok after => .ok after.cons
      | .error stop => .error stop
    else
      stopBefore .expectedIdent rest

/-- What follows in an array or an object: another element, or the end, which is passed over. -/
inductive Next (input : List UInt8) where
  | element (rest : List UInt8) (bound : NotLonger rest input)
  | done (rest : List UInt8) (bound : Shorter rest input)

/-- What follows in an array, of which the opening bracket or an item was read last. -/
def nextItem (first : Bool) (input : List UInt8) : Except Stop (Next input) :=
  match shape : skipSpaces input with
  | [] => stopBefore .eofInList []
  | byte :: rest =>
    have bound := shorter_of_skipSpaces shape
    if byte = 0x5D then .ok (.done rest bound)
    else if first then .ok (.element (byte :: rest) (notLonger_of_skipSpaces shape))
    else if byte = 0x2C then
      match skipSpaces rest with
      | [] => stopBefore .eofInValue []
      | next :: after =>
        if next = 0x5D then stopAt .trailingComma (next :: after)
        else .ok (.element rest bound.notLonger)
    else
      stopAt .expectedListCommaOrEnd (byte :: rest)

/-- The rest of an array, of which the opening bracket or an item was read last. -/
def readItems {α : Type} (item : (input : List UInt8) → Reading α input) (first : Bool)
    (input : List UInt8) : Reading (List α) input :=
  match nextItem first input with
  | .error stop => .error stop
  | .ok (.done rest bound) => .ok ([], ⟨rest, bound⟩)
  | .ok (.element start bound) =>
    match item start with
    | .error stop => .error stop
    | .ok (value, ⟨rest, shorter⟩) =>
      match readItems item false rest with
      | .error stop => .error stop
      | .ok (values, ⟨last, shorter'⟩) =>
        .ok (value :: values, ⟨last, shorter'.trans (shorter.trans_notLonger bound)⟩)
termination_by input.length
decreasing_by exact shorter.trans_notLonger bound

/-- What follows in an object, of which the opening brace or a member was read last. A member starts
after the opening quote of its name. -/
def nextMember (first : Bool) (input : List UInt8) : Except Stop (Next input) :=
  match shape : skipSpaces input with
  | [] => stopBefore .eofInObject []
  | byte :: rest =>
    have bound := shorter_of_skipSpaces shape
    if byte = 0x7D then .ok (.done rest bound)
    else if first then
      if byte = 0x22 then .ok (.element rest bound.notLonger)
      else stopAt .keyMustBeString (byte :: rest)
    else if byte = 0x2C then
      match shape' : skipSpaces rest with
      | [] => stopBefore .eofInValue []
      | next :: after =>
        have bound' := shorter_of_skipSpaces shape'
        if next = 0x22 then .ok (.element after (bound'.trans bound).notLonger)
        else if next = 0x7D then stopAt .trailingComma (next :: after)
        else stopAt .keyMustBeString (next :: after)
    else
      stopAt .expectedObjectCommaOrEnd (byte :: rest)

/-- The colon after the name of a member. -/
def readColon (input : List UInt8) :
    Except Stop (Rest input) :=
  match shape : skipSpaces input with
  | [] => stopBefore .eofInObject []
  | byte :: rest =>
    if byte = 0x3A then
      .ok ⟨rest, shorter_of_skipSpaces shape⟩
    else
      stopAt .expectedColon (byte :: rest)

/-- A member after the opening quote of its name. -/
def readMember {α : Type} (item : (input : List UInt8) → Reading α input) (input : List UInt8) :
    Reading (String × α) input :=
  match readString input with
  | .error stop => .error stop
  | .ok (name, ⟨rest, shorter⟩) =>
    match readColon rest with
    | .error stop => .error stop
    | .ok ⟨start, shorter'⟩ =>
      match item start with
      | .error stop => .error stop
      | .ok (value, ⟨last, shorter''⟩) =>
        .ok ((name, value), ⟨last, shorter''.trans (shorter'.trans shorter)⟩)

/-- The rest of an object, of which the opening brace or a member was read last. -/
def readMembers {α : Type} (item : (input : List UInt8) → Reading α input) (first : Bool)
    (input : List UInt8) : Reading (List (String × α)) input :=
  match nextMember first input with
  | .error stop => .error stop
  | .ok (.done rest bound) => .ok ([], ⟨rest, bound⟩)
  | .ok (.element start bound) =>
    match readMember item start with
    | .error stop => .error stop
    | .ok (member, ⟨rest, shorter⟩) =>
      match readMembers item false rest with
      | .error stop => .error stop
      | .ok (members, ⟨last, shorter'⟩) =>
        .ok (member :: members, ⟨last, shorter'.trans (shorter.trans_notLonger bound)⟩)
termination_by input.length
decreasing_by exact shorter.trans_notLonger bound

/-- A value inside `depth` arrays and objects at most, the deepest of which counts as too deep. -/
def readValue (depth : Nat) (input : List UInt8) : Reading Json input :=
  match shape : skipSpaces input with
  | [] => stopBefore .eofInValue []
  | byte :: rest =>
    have bound := shorter_of_skipSpaces shape
    let word (expected : List UInt8) (value : Json) : Reading Json input :=
      match readIdent expected rest with
      | .ok ⟨after, notLonger⟩ => .ok (value, ⟨after, notLonger.trans_shorter bound⟩)
      | .error stop => .error stop
    if byte = 0x6E then word [0x75, 0x6C, 0x6C] .null
    else if byte = 0x74 then word [0x72, 0x75, 0x65] (.bool true)
    else if byte = 0x66 then word [0x61, 0x6C, 0x73, 0x65] (.bool false)
    else if byte = 0x2D then
      match readNumber true rest with
      | .ok (value, ⟨after, shorter⟩) => .ok (value, ⟨after, shorter.trans bound⟩)
      | .error stop => .error stop
    else if isDigit byte then
      match readNumber false (byte :: rest) with
      | .ok (value, ⟨after, shorter⟩) => .ok (value, ⟨after, shorter_behind_spaces shape shorter⟩)
      | .error stop => .error stop
    else if byte = 0x22 then
      match readString rest with
      | .ok (text, ⟨after, shorter⟩) => .ok (.string text, ⟨after, shorter.trans bound⟩)
      | .error stop => .error stop
    else if byte = 0x5B then
      match depth with
      | 0 | 1 => stopAt .nestedTooDeep (byte :: rest)
      | inner + 1 =>
        match readItems (readValue inner) true rest with
        | .ok (items, ⟨after, shorter⟩) => .ok (.array items, ⟨after, shorter.trans bound⟩)
        | .error stop => .error stop
    else if byte = 0x7B then
      match depth with
      | 0 | 1 => stopAt .nestedTooDeep (byte :: rest)
      | inner + 1 =>
        match readMembers (readValue inner) true rest with
        | .ok (members, ⟨after, shorter⟩) => .ok (.object members, ⟨after, shorter.trans bound⟩)
        | .error stop => .error stop
    else
      stopAt .expectedValue (byte :: rest)

/-- The level of nesting that is too deep. -/
def nestingLimit : Nat := 128

/-! ### Texts -/

/-- A fault with the place where it shows: lines count from one, columns count bytes. -/
structure SyntaxError where
  fault : Fault
  line : Nat
  column : Nat
  deriving DecidableEq, Repr

/-- What is said about a text that is not JSON. -/
def SyntaxError.message (error : SyntaxError) : String :=
  s!"{error.fault.message} at line {error.line} column {error.column}"

def Stop.locate (input : List UInt8) (stop : Stop) : SyntaxError :=
  let before := input.take (input.length - stop.left)
  { fault := stop.fault
    line := before.count 0x0A + 1
    column := (before.reverse.takeWhile (· ≠ 0x0A)).length }

/-- The one value of a text, which blanks may surround. -/
def readWhole {α : Type} (read : (input : List UInt8) → Reading α input) (input : List UInt8) :
    Except SyntaxError α :=
  match read input with
  | .error stop => .error (stop.locate input)
  | .ok (value, ⟨rest, _⟩) =>
    match skipSpaces rest with
    | [] => .ok value
    | byte :: after =>
      .error (Stop.locate input ⟨.trailingCharacters, (byte :: after).length - 1⟩)

/-- The one value of a text, in normal form. -/
def parse (input : List UInt8) : Except SyntaxError Json :=
  (readWhole (readValue nestingLimit) input).map normal

/-- A byte that may follow a value without brackets or quotes in a sequence of values. -/
def endsValue (byte : UInt8) : Bool :=
  isSpace byte || [0x22, 0x5B, 0x5D, 0x7B, 0x7D, 0x2C, 0x3A].contains byte

/-- The value shows its own end. -/
def isDelimited : Json → Bool
  | .string _ => true
  | .array _ => true
  | .object _ => true
  | _ => false

/-- The values of a text that holds any number of them one after the other. -/
def readSequence (input : List UInt8) : Except Stop (List Json) :=
  match skipSpaces input with
  | [] => .ok []
  | _ :: _ =>
    match readValue nestingLimit input with
    | .error stop => .error stop
    | .ok (value, ⟨rest, _⟩) =>
      match rest.head? with
      | some byte =>
        if isDelimited value || endsValue byte then
          (readSequence rest).map (value :: ·)
        else
          stopAt .trailingCharacters rest
      | none => .ok [value]
termination_by input.length

/-- The values of a text that holds any number of them, in normal form. -/
def parseSequence (input : List UInt8) : Except SyntaxError (List Json) :=
  match readSequence input with
  | .ok values => .ok (normalItems values)
  | .error stop => .error (stop.locate input)

end ScanMerge.Json
