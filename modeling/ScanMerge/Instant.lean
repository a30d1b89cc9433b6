/-!
Instants of the calendar in UTC, written like `2024-03-09T17:05:06.5Z`. A leap second counts as a
part of the second before it, so the nanoseconds of a second go up to two thousand million.
-/

set_option autoImplicit false

namespace ScanMerge

/-- A day of the Gregorian calendar. -/
structure Date where
  year : Int
  month : Nat
  day : Nat
  deriving DecidableEq, Repr

namespace Date

/-- The year has a twenty-ninth of February. -/
def isLeapYear (year : Int) : Bool :=
  year % 4 = 0 && (year % 100 ≠ 0 || year % 400 = 0)

def daysInMonth (year : Int) (month : Nat) : Nat :=
  if month = 2 then if isLeapYear year then 29 else 28
  else if [4, 6, 9, 11].contains month then 30
  else 31

/-- The month and the day are there in the year. -/
def isValid (date : Date) : Bool :=
  1 ≤ date.month && date.month ≤ 12 && 1 ≤ date.day &&
    date.day ≤ daysInMonth date.year date.month

def next (date : Date) : Date :=
  if date.day < daysInMonth date.year date.month then { date with day := date.day + 1 }
  else if date.month < 12 then ⟨date.year, date.month + 1, 1⟩
  else ⟨date.year + 1, 1, 1⟩

def ahead (date : Date) : Nat → Date
  | 0 => date
  | days + 1 => date.next.ahead days

def previous (date : Date) : Date :=
  if 1 < date.day then { date with day := date.day - 1 }
  else if 1 < date.month then ⟨date.year, date.month - 1, daysInMonth date.year (date.month - 1)⟩
  else ⟨date.year - 1, 12, 31⟩

end Date

/-- An instant: a day, a second of it, and nanoseconds of that. -/
structure Instant where
  date : Date
  second : Nat
  nanosecond : Nat
  deriving DecidableEq, Repr

namespace Instant

def epoch : Instant :=
  ⟨⟨1970, 1, 1⟩, 0, 0⟩

def secondsPerDay : Nat := 86400

def nanosecondsPerSecond : Nat := 1000000000

/-- The instant that is so many seconds, less than a day, before the given one. -/
def back (instant : Instant) (seconds : Nat) : Instant :=
  if seconds ≤ instant.second then { instant with second := instant.second - seconds }
  else
    { instant with
      date := instant.date.previous
      second := instant.second + secondsPerDay - seconds }

/-- The instant that is so many seconds, less than a day, after the given one. -/
def ahead (instant : Instant) (seconds : Nat) : Instant :=
  if instant.second + seconds < secondsPerDay then
    { instant with second := instant.second + seconds }
  else
    { instant with
      date := instant.date.next
      second := instant.second + seconds - secondsPerDay }

/-- The instant so many nanoseconds after the start of the year 1970. -/
def ofNanoseconds (nanoseconds : Nat) : Instant :=
  let seconds := nanoseconds / nanosecondsPerSecond
  { date := epoch.date.ahead (seconds / secondsPerDay)
    second := seconds % secondsPerDay
    nanosecond := nanoseconds % nanosecondsPerSecond }

/-! ### Writing -/

/-- A number with at least so many digits. -/
def padded (width value : Nat) : List Char :=
  let digits := Nat.toDigits 10 value
  List.replicate (width - digits.length) '0' ++ digits

/-- A year: four digits, and a sign outside of the years 0 to 9999. -/
def yearText (year : Int) : List Char :=
  if 0 ≤ year ∧ year ≤ 9999 then padded 4 year.toNat
  else (if year < 0 then '-' else '+') :: padded 4 year.natAbs

/-- The second of the minute; a leap second is the sixtieth. -/
def secondOfMinute (instant : Instant) : Nat :=
  instant.second % 60 + instant.nanosecond / nanosecondsPerSecond

/-- Year, month and day. -/
def dateText (instant : Instant) : List Char :=
  yearText instant.date.year ++ '-' :: padded 2 instant.date.month ++ '-' ::
    padded 2 instant.date.day

/-- Hour, minute and second. -/
def timeText (instant : Instant) : List Char :=
  padded 2 (instant.second / 3600) ++ ':' :: padded 2 (instant.second / 60 % 60) ++ ':' ::
    padded 2 instant.secondOfMinute

/-- The fraction of the second, with as many digits as it needs of none, three, six or nine. -/
def fractionText (instant : Instant) : List Char :=
  let fraction := instant.nanosecond % nanosecondsPerSecond
  if fraction = 0 then []
  else if fraction % 1000000 = 0 then '.' :: padded 3 (fraction / 1000000)
  else if fraction % 1000 = 0 then '.' :: padded 6 (fraction / 1000)
  else '.' :: padded 9 fraction

def text (instant : Instant) : String :=
  String.ofList (instant.dateText ++ 'T' :: instant.timeText ++ instant.fractionText ++ ['Z'])

/-- The text of an instant for readers, to the second. -/
def shownText (instant : Instant) : String :=
  String.ofList (instant.dateText ++ ' ' :: instant.timeText ++ " UTC".toList)

/-! ### Reading -/

def valueOfDigits (digits : List Char) : Nat :=
  digits.foldl (fun value digit => value * 10 + (digit.toNat - 48)) 0

/-- A number of exactly so many digits, and the rest. -/
def readDigits? (count : Nat) (input : List Char) : Option (Nat × List Char) :=
  let digits := input.take count
  if digits.length = count ∧ digits.all Char.isDigit then
    some (valueOfDigits digits, input.drop count)
  else
    none

def readChar? (accepted : Char → Bool) : List Char → Option (List Char)
  | [] => none
  | c :: rest => if accepted c then some rest else none

/-- A year: four digits, or a sign and any number of digits. -/
def readYear? (input : List Char) : Option (Int × List Char) :=
  let signed (negative : Bool) (rest : List Char) : Option (Int × List Char) :=
    let digits := rest.takeWhile Char.isDigit
    let value : Int := valueOfDigits digits
    if digits = [] then none
    else some (if negative then -value else value, rest.dropWhile Char.isDigit)
  match input with
  | '+' :: rest => signed false rest
  | '-' :: rest => signed true rest
  | _ => (readDigits? 4 input).map fun (year, rest) => ((year : Int), rest)

def readDate? (input : List Char) : Option (Date × List Char) := do
  let (year, input) ← readYear? input
  let input ← readChar? (· = '-') input
  let (month, input) ← readDigits? 2 input
  let input ← readChar? (· = '-') input
  let (day, input) ← readDigits? 2 input
  let date : Date := ⟨year, month, day⟩
  if date.isValid then some (date, input) else none

/-- The nanoseconds of a fraction, which may be absent. Digits after the ninth do not count. -/
def readFraction? (input : List Char) : Option (Nat × List Char) :=
  match input with
  | '.' :: rest =>
    let digits := (rest.takeWhile Char.isDigit).take 9
    if digits = [] then none
    else some (valueOfDigits digits * Nat.pow 10 (9 - digits.length), rest.dropWhile Char.isDigit)
  | _ => some (0, input)

/-- The second of a day and its nanoseconds. -/
def readTime? (input : List Char) : Option (Nat × Nat × List Char) := do
  let (hour, input) ← readDigits? 2 input
  let input ← readChar? (· = ':') input
  let (minute, input) ← readDigits? 2 input
  let input ← readChar? (· = ':') input
  let (second, input) ← readDigits? 2 input
  let (fraction, input) ← readFraction? input
  if hour < 24 ∧ minute < 60 ∧ second < 60 then
    some (hour * 3600 + minute * 60 + second, fraction, input)
  else if hour < 24 ∧ minute < 60 ∧ second = 60 then
    some (hour * 3600 + minute * 60 + 59, nanosecondsPerSecond + fraction, input)
  else
    none

/-- Whether a local time is ahead of UTC, and by how many seconds it differs. -/
def readOffset? (input : List Char) : Option (Bool × Nat) :=
  match input with
  | ['Z'] => some (true, 0)
  | ['z'] => some (true, 0)
  | sign :: rest => do
    let east ← if sign = '+' then some true else if sign = '-' then some false else none
    let (hours, rest) ← readDigits? 2 rest
    let rest ← readChar? (· = ':') rest
    let (minutes, rest) ← readDigits? 2 rest
    if rest = [] ∧ hours < 24 ∧ minutes < 60 then some (east, hours * 3600 + minutes * 60) else none
  | [] => none

def ofText? (input : List Char) : Option Instant := do
  let (date, input) ← readDate? input
  let input ← readChar? (fun c => c = 'T' || c = 't' || c = ' ') input
  let (second, nanosecond, input) ← readTime? input
  let (east, offset) ← readOffset? input
  let here : Instant := ⟨date, second, nanosecond⟩
  return if east then here.back offset else here.ahead offset

end Instant

end ScanMerge
