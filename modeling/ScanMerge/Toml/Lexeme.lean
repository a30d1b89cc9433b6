import ScanMerge.Decimal.Double
import ScanMerge.Instant
import ScanMerge.Rest
import ScanMerge.Toml.Basic

/-!
The lexemes of TOML: blanks, comments, keys, strings, numbers, dates and times.
-/

set_option autoImplicit false

namespace ScanMerge.Toml

/-- What a reader makes of an input: a value and a shorter rest. -/
abbrev Reading (α : Type) (input : List Char) : Type :=
  Option (α × Rest input)

namespace Reading

variable {α β : Type} {input : List Char}

/-- Makes something else of the value. -/
def convert (convert? : α → Option β) (reading : Reading α input) : Reading β input :=
  reading.bind fun (value, rest) => (convert? value).map fun converted => (converted, rest)

def andThen (reading : Reading α input)
    (next : α → (rest : Rest input) →
      Reading β rest.val) : Reading β input :=
  match reading with
  | none => none
  | some (value, rest) =>
    match next value rest with
    | none => none
    | some (result, ⟨after, shorter⟩) =>
      some (result, ⟨after, shorter.trans rest.property⟩)

def ofEnd {inner : List Char} (bound : NotLonger inner input) (reading : Reading α inner) :
    Reading α input :=
  reading.map fun (value, ⟨rest, shorter⟩) => (value, ⟨rest, shorter.trans_notLonger bound⟩)

/-- Goes on with something that may read nothing. -/
def thenSkip (reading : Reading α input)
    (skip : (rest : List Char) → Remainder rest) :
    Reading α input :=
  reading.map fun (value, ⟨rest, shorter⟩) =>
    (value, ⟨(skip rest).val, (skip rest).property.trans_shorter shorter⟩)

end Reading

/-! ### Blanks and lines -/

/-- The two characters that separate lexemes on a line. -/
def isSpace (c : Char) : Bool :=
  c = ' ' || c = '\t'

def isCommentChar (c : Char) : Bool :=
  c = '\t' || (0x20 ≤ c.toNat && c.toNat ≠ 0x7F)

def skipSpaces (input : List Char) : Remainder input :=
  ⟨input.dropWhile isSpace, notLonger_dropWhile isSpace input⟩

/-- The input after a comment, if one is there. -/
def skipComment : (input : List Char) → Remainder input
  | '#' :: rest => ⟨rest.dropWhile isCommentChar, (notLonger_dropWhile isCommentChar rest).cons⟩
  | _ => Remainder.all

/-- The input after the end of a line. -/
def readNewline : (input : List Char) → Reading Unit input
  | '\n' :: _ => some ((), Rest.tail)
  | '\r' :: '\n' :: _ => some ((), Rest.tail.cons)
  | _ => none

/-- The input after spaces, comments and ends of lines. -/
def skipLines (input : List Char) : Remainder input :=
  let spaces := skipSpaces input
  let comment := skipComment spaces.val
  have bound := comment.property.trans spaces.property
  match readNewline comment.val with
  | none => ⟨comment.val, bound⟩
  | some ((), ⟨rest, shorter⟩) =>
    have left := shorter.trans_notLonger bound
    let done := skipLines rest
    ⟨done.val, done.property.past left⟩
termination_by input.length
decreasing_by exact left

/-- The input after spaces and ends of lines. -/
def skipBlank (input : List Char) : Remainder input :=
  match readNewline (skipSpaces input).val with
  | none => skipSpaces input
  | some ((), ⟨rest, shorter⟩) =>
    have left := shorter.trans_notLonger (skipSpaces input).property
    let done := skipBlank rest
    ⟨done.val, done.property.past left⟩
termination_by input.length
decreasing_by exact left

/-- The input after the rest of a line, which holds nothing but spaces and a comment. -/
def endLine (input : List Char) : Option (Remainder input) :=
  let spaces := skipSpaces input
  let comment := skipComment spaces.val
  have bound := comment.property.trans spaces.property
  if comment.val = [] then some ⟨[], .nil⟩
  else
    (readNewline comment.val).map fun ((), ⟨rest, shorter⟩) =>
      ⟨rest, shorter.notLonger.trans bound⟩

def readWord : (word input : List Char) → word ≠ [] → Reading Unit input
  | [], _, nonempty => absurd rfl nonempty
  | _ :: _, [], _ => none
  | [c], first :: rest, _ => if first = c then some ((), ⟨rest, shorter_cons_self⟩) else none
  | c :: d :: word, first :: rest, _ =>
    if first = c then
      (readWord (d :: word) rest (List.cons_ne_nil d word)).ofEnd notLonger_cons_self
    else
      none

def readChar (accepted : Char → Bool) : (input : List Char) → Reading Char input
  | [] => none
  | c :: rest => if accepted c then some (c, ⟨rest, shorter_cons_self⟩) else none

/-! ### Strings -/

/-- The character may stand for itself in a string. -/
def isPlain (c : Char) : Bool :=
  isCommentChar c

/-- The value of a hexadecimal digit in either case. -/
def hexValue? (c : Char) : Option Nat :=
  if '0' ≤ c && c ≤ '9' then some (c.toNat - 48)
  else if 'a' ≤ c && c ≤ 'f' then some (c.toNat - 87)
  else if 'A' ≤ c && c ≤ 'F' then some (c.toNat - 55)
  else none

/-- The character with a number, unless the number is none of a character. -/
def charOf? (code : Nat) : Option Char :=
  if code < 0xD800 ∨ (0xDFFF < code ∧ code ≤ 0x10FFFF) then some (Char.ofNat code) else none

/-- The character that so many hexadecimal digits stand for. -/
def readCodePoint (count : Nat) (input : List Char) : Reading Char input :=
  let digits := input.take count
  if bound : 0 < count ∧ count ≤ input.length then do
    let values ← digits.mapM hexValue?
    let c ← charOf? (values.foldl (fun code value => code * 16 + value) 0)
    return (c, ⟨input.drop count, shorter_drop bound.1 bound.2⟩)
  else
    none

/-- The character that an escape after its backslash stands for. -/
def readEscape : (input : List Char) → Reading Char input
  | [] => none
  | letter :: rest =>
    let one (c : Char) : Reading Char (letter :: rest) := some (c, Rest.tail)
    match letter with
    | 'b' => one '\x08'
    | 't' => one '\t'
    | 'n' => one '\n'
    | 'f' => one '\x0c'
    | 'r' => one '\r'
    | '"' => one '"'
    | '\\' => one '\\'
    | 'u' => (readCodePoint 4 rest).ofEnd notLonger_cons_self
    | 'U' => (readCodePoint 8 rest).ofEnd notLonger_cons_self
    | _ => none

/-- The characters of a string up to and with its closing quote. -/
def readBasic : (input : List Char) → Reading (List Char) input
  | [] => none
  | c :: rest =>
    if c = '"' then some ([], Rest.tail)
    else if c = '\\' then
      ((readEscape rest).andThen fun escaped after =>
        (readBasic after.val).convert fun text => some (escaped :: text)).ofEnd
          notLonger_cons_self
    else if isPlain c then
      ((readBasic rest).convert fun text => some (c :: text)).ofEnd notLonger_cons_self
    else none
termination_by input => input.length
decreasing_by
  · exact after.property.cons
  · exact shorter_cons_self

/-- The characters of a string without escapes up to and with its closing quote. -/
def readLiteral : (input : List Char) → Reading (List Char) input
  | [] => none
  | c :: rest =>
    if c = '\'' then some ([], Rest.tail)
    else if isPlain c then
      ((readLiteral rest).convert fun text => some (c :: text)).ofEnd notLonger_cons_self
    else none

/-- The number of quotes that close a string of several lines. -/
def closingQuotes : Nat := 3

/-- The most quotes that can stand in a row at the end of a string of several lines: two of them are
content. -/
def greatestRun : Nat := 5

/-- The characters of a string of several lines up to and with its closing quotes. With escapes, a
backslash at the end of a line joins the next characters that are no blanks. -/
def readLines (quote : Char) (escapes : Bool) (input : List Char) : Reading (List Char) input :=
  match input with
  | [] => none
  | c :: rest =>
    if c = quote then
      let more := rest.takeWhile (· = quote)
      have bound := notLonger_drop more.length rest
      if more.length + 1 < closingQuotes then
        ((readLines quote escapes (rest.drop more.length)).convert fun text =>
          some (c :: more ++ text)).ofEnd bound.cons
      else if more.length + 1 ≤ greatestRun then
        some (more.drop (closingQuotes - 1), ⟨rest.drop more.length, bound.shorter_cons⟩)
      else
        none
    else if escapes ∧ c = '\\' then
      let spaces := skipSpaces rest
      match readNewline spaces.val with
      | some ((), ⟨after, shorter⟩) =>
        have left :=
          (skipBlank after).property.trans_shorter (shorter.trans_notLonger spaces.property)
        (readLines quote escapes (skipBlank after).val).ofEnd left.cons.notLonger
      | none =>
        ((readEscape rest).andThen fun escaped after =>
          (readLines quote escapes after.val).convert fun text => some (escaped :: text)).ofEnd
            notLonger_cons_self
    else
      match readNewline (c :: rest) with
      | some ((), after) =>
        ((readLines quote escapes after.val).convert fun text => some ('\n' :: text)).ofEnd
          after.property.notLonger
      | none =>
        if isPlain c then
          ((readLines quote escapes rest).convert fun text => some (c :: text)).ofEnd
            notLonger_cons_self
        else
          none
termination_by input.length
decreasing_by
  · exact bound.shorter_cons
  · exact left.cons
  · exact after.property.cons
  · exact after.property
  · exact shorter_cons_self

/-- A string of several lines after its opening quotes. A line end right behind them is dropped. -/
def readLinesAfterOpening (quote : Char) (escapes : Bool) (input : List Char) :
    Reading (List Char) input :=
  match readNewline input with
  | some ((), ⟨rest, shorter⟩) => (readLines quote escapes rest).ofEnd shorter.notLonger
  | none => readLines quote escapes input

def readString : (input : List Char) → Reading String input
  | '"' :: '"' :: '"' :: rest =>
    ((readLinesAfterOpening '"' true rest).convert (some ∘ String.ofList)).ofEnd
      Rest.tail.cons.cons.property.notLonger
  | '\'' :: '\'' :: '\'' :: rest =>
    ((readLinesAfterOpening '\'' false rest).convert (some ∘ String.ofList)).ofEnd
      Rest.tail.cons.cons.property.notLonger
  | '"' :: rest => ((readBasic rest).convert (some ∘ String.ofList)).ofEnd notLonger_cons_self
  | '\'' :: rest => ((readLiteral rest).convert (some ∘ String.ofList)).ofEnd notLonger_cons_self
  | _ => none

/-! ### Keys -/

/-- The character may stand in a key without quotes. -/
def isBareChar (c : Char) : Bool :=
  c.isAlphanum || c = '_' || c = '-'

def readKeyPart : (input : List Char) → Reading String input
  | [] => none
  | '"' :: rest => ((readBasic rest).convert (some ∘ String.ofList)).ofEnd notLonger_cons_self
  | '\'' :: rest => ((readLiteral rest).convert (some ∘ String.ofList)).ofEnd notLonger_cons_self
  | c :: rest =>
    if isBareChar c then
      some (String.ofList (c :: rest.takeWhile isBareChar),
        ⟨rest.dropWhile isBareChar, (notLonger_dropWhile isBareChar rest).shorter_cons⟩)
    else
      none

/-- A key with its parts, between which dots stand. Spaces around the parts do not count. -/
def readKeyParts (input : List Char) : Reading (List String) input :=
  let part :=
    (Reading.ofEnd (skipSpaces input).property (readKeyPart (skipSpaces input).val)).thenSkip
      skipSpaces
  match part with
  | none => none
  | some (name, rest) =>
    match readChar (· = '.') rest.val with
    | none => some ([name], rest)
    | some (_, after) =>
      have left := after.property.trans rest.property
      ((readKeyParts after.val).convert fun names => some (name :: names)).ofEnd left.notLonger
termination_by input.length
decreasing_by exact left

/-- A key with this many parts is too long. -/
def keyLimit : Nat := 80

/-- A key: its parts before the last one, and the last one. -/
def readKey (input : List Char) : Reading (List String × String) input :=
  (readKeyParts input).convert fun names =>
    if names.length < keyLimit then
      names.getLast?.map fun last => (names.dropLast, last)
    else
      none

/-! ### Numbers -/

/-- Digits, the first of which is there already. An underscore may stand between two. -/
def digitsAfter (isDigit : Char → Bool) : (input : List Char) → Option (List Char × List Char)
  | '_' :: c :: rest =>
    if isDigit c then (digitsAfter isDigit rest).map fun (digits, after) => (c :: digits, after)
    else none
  | c :: rest =>
    if isDigit c then (digitsAfter isDigit rest).map fun (digits, after) => (c :: digits, after)
    else if c = '_' then none
    else some ([], c :: rest)
  | [] => some ([], [])

/-- Digits, at least one. -/
def digits? (isDigit : Char → Bool) : (input : List Char) → Option (List Char × List Char)
  | [] => none
  | c :: rest =>
    if isDigit c then (digitsAfter isDigit rest).map fun (digits, after) => (c :: digits, after)
    else none

/-- A sign, if one is there: whether it is a minus, and the rest. -/
def sign : List Char → Bool × List Char
  | '+' :: rest => (false, rest)
  | '-' :: rest => (true, rest)
  | input => (false, input)

/-- The digits of a decimal number before its point: a zero alone, or digits that start with none.
-/
def wholeDigits? : (input : List Char) → Option (List Char × List Char)
  | '0' :: rest => some (['0'], rest)
  | input => digits? Char.isDigit input

def valueInBase (base : Nat) (digits : List Char) : Nat :=
  digits.foldl (fun value digit => value * base + (hexValue? digit).getD 0) 0

def integer? (negative : Bool) (value : Nat) : Option Toml :=
  if negative then if value ≤ Nat.pow 2 63 then some (.integer (-(value : Int))) else none
  else if value < Nat.pow 2 63 then some (.integer value)
  else none

/-- An integer in another base, after its mark. -/
def basedInteger? (base : Nat) (input : List Char) : Option (Toml × List Char) := do
  let isDigit (c : Char) : Bool := ((hexValue? c).map fun value => decide (value < base)).getD false
  let (digits, rest) ← digits? isDigit input
  return (← integer? false (valueInBase base digits), rest)

/-- The exponent of a number, after its letter. -/
def exponent? (input : List Char) : Option (Int × List Char) := do
  let (negative, rest) := sign input
  let (digits, rest) ← digits? Char.isDigit rest
  let value : Int := valueInBase 10 digits
  return (if negative then -value else value, rest)

/-- From this power of ten on a number is infinite. -/
def infiniteFrom : Int := 310

/-- The decimal number is less than every infinite one. -/
def isFinite (digits : List Char) (exponent : Int) : Bool :=
  let significand := valueInBase 10 digits
  let leading := (Nat.toDigits 10 significand).length + exponent
  if significand = 0 ∨ leading ≤ 0 then true
  else if infiniteFrom ≤ leading then false
  else
    (Decimal.Double.nearest? false (significand * Nat.pow 10 exponent.toNat)
      (Nat.pow 10 (-exponent).toNat)).isSome

/-- What follows the digits before the point of a number: none for an integer, and for a floating
point number the digits behind the point, the exponent and the rest. -/
def fraction? (input : List Char) : Option (Option (List Char × Int) × List Char) :=
  match input with
  | '.' :: rest => do
    let (digits, rest) ← digits? Char.isDigit rest
    match rest with
    | 'e' :: after | 'E' :: after => do
      let (exponent, after) ← exponent? after
      return (some (digits, exponent), after)
    | _ => return (some (digits, 0), rest)
  | 'e' :: after | 'E' :: after => do
    let (exponent, after) ← exponent? after
    return (some ([], exponent), after)
  | _ => some (none, input)

/-- A decimal number. One too great is refused, but not one too far below zero. -/
def decimal? (input : List Char) : Option (Toml × List Char) := do
  let (negative, rest) := sign input
  let (whole, rest) ← wholeDigits? rest
  match ← fraction? rest with
  | (none, rest) => return (← integer? negative (valueInBase 10 whole), rest)
  | (some (digits, exponent), rest) =>
    if negative ∨ isFinite (whole ++ digits) (exponent - digits.length) then
      return (.float (String.ofList (input.take (input.length - rest.length))), rest)
    else
      none

/-- One of the words for infinity and for no number, with or without a sign. -/
def namedFloat? (input : List Char) : Option (Toml × List Char) :=
  let (negative, rest) := sign input
  let mark := if negative then "-" else ""
  match rest with
  | 'i' :: 'n' :: 'f' :: after => some (.float (mark ++ "inf"), after)
  | 'n' :: 'a' :: 'n' :: after => some (.float (mark ++ "nan"), after)
  | _ => none

def number? : (input : List Char) → Option (Toml × List Char)
  | '0' :: 'x' :: rest => basedInteger? 16 rest
  | '0' :: 'o' :: rest => basedInteger? 8 rest
  | '0' :: 'b' :: rest => basedInteger? 2 rest
  | input => (namedFloat? input).or (decimal? input)

/-! ### Dates and times -/

/-- The text of a fraction of a second without trailing zeros; digits after the ninth do not count.
-/
def fractionText (digits : List Char) : List Char :=
  let kept := ((digits.take 9).reverse.dropWhile (· = '0')).reverse
  if kept = [] then [] else '.' :: kept

/-- A time of the day in the standard spelling. -/
def time? (input : List Char) : Option (List Char × List Char) := do
  let (hour, rest) ← Instant.readDigits? 2 input
  let rest ← Instant.readChar? (· = ':') rest
  let (minute, rest) ← Instant.readDigits? 2 rest
  let rest ← Instant.readChar? (· = ':') rest
  let (second, rest) ← Instant.readDigits? 2 rest
  if 23 < hour ∨ 59 < minute ∨ 60 < second then none
  else
    let whole := input.take 8
    match rest with
    | '.' :: after =>
      let digits := after.takeWhile Char.isDigit
      if digits = [] then none
      else some (whole ++ fractionText digits, after.dropWhile Char.isDigit)
    | _ => some (whole, rest)

/-- The difference of a local time from UTC in the standard spelling. -/
def offset? (input : List Char) : Option (List Char × List Char) :=
  match input with
  | 'Z' :: rest => some (['Z'], rest)
  | 'z' :: rest => some (['Z'], rest)
  | mark :: rest => do
    let (hour, after) ← Instant.readDigits? 2 rest
    let after ← Instant.readChar? (· = ':') after
    let (minute, after) ← Instant.readDigits? 2 after
    if (mark = '+' ∨ mark = '-') ∧ hour ≤ 23 ∧ minute ≤ 59 then
      let shown := if hour = 0 ∧ minute = 0 then '+' else mark
      some (shown :: rest.take 5, after)
    else
      none
  | [] => none

/-- A day in the standard spelling. -/
def day? (input : List Char) : Option (List Char × List Char) := do
  let (year, rest) ← Instant.readDigits? 4 input
  let rest ← Instant.readChar? (· = '-') rest
  let (month, rest) ← Instant.readDigits? 2 rest
  let rest ← Instant.readChar? (· = '-') rest
  let (day, rest) ← Instant.readDigits? 2 rest
  if Date.isValid ⟨year, month, day⟩ then some (input.take 10, rest) else none

/-- A time after a day, with what separates them. -/
def timeAfterDay? (input : List Char) : Option (List Char × List Char) := do
  let rest ← Instant.readChar? (fun c => c = 'T' || c = 't' || c = ' ') input
  let (time, rest) ← time? rest
  match offset? rest with
  | some (offset, rest) => return ('T' :: time ++ offset, rest)
  | none => return ('T' :: time, rest)

/-- A date, a time or both. -/
def datetime? (input : List Char) : Option (Toml × List Char) :=
  match day? input with
  | some (day, rest) =>
    match timeAfterDay? rest with
    | some (time, rest) => some (.datetime (String.ofList (day ++ time)), rest)
    | none => some (.datetime (String.ofList day), rest)
  | none => (time? input).map fun (time, rest) => (.datetime (String.ofList time), rest)

/-- A truth value, a number, a date or a time. -/
def scalar? : (input : List Char) → Option (Toml × List Char)
  | 't' :: 'r' :: 'u' :: 'e' :: rest => some (.boolean true, rest)
  | 'f' :: 'a' :: 'l' :: 's' :: 'e' :: rest => some (.boolean false, rest)
  | input => (datetime? input).or (number? input)

end ScanMerge.Toml
