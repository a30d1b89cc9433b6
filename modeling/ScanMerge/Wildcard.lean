import ScanMerge.Text.Blank

/-!
Wildcard patterns for paths. `?` stands for one character of a name, `*` for any number of them,
`**` for anything and `**/` for any number of directories. A pattern is matched against the whole
path. Backslashes count as separators, and separators in front are passed over.
-/

set_option autoImplicit false

namespace ScanMerge.Wildcard

/-- What a part of a pattern stands for. -/
inductive Token where
  /-- This character. -/
  | char (value : Char)
  /-- One character of a name. -/
  | nameChar
  /-- Any characters of a name. -/
  | nameChars
  /-- Any characters of a line. -/
  | anything
  /-- Nothing, or characters of a line with a separator behind them. -/
  | directories
  deriving DecidableEq, Repr

/-- A text with separators of one kind and none in front. -/
def normalize (text : List Char) : List Char :=
  (text.map fun c => if c = '\\' then '/' else c).dropWhile (· = '/')

def tokenize : List Char → List Token
  | [] => []
  | '*' :: '*' :: '/' :: rest => .directories :: tokenize rest
  | '*' :: '*' :: rest => .anything :: tokenize rest
  | '*' :: rest => .nameChars :: tokenize rest
  | '?' :: rest => .nameChar :: tokenize rest
  | c :: rest => .char c :: tokenize rest

/-! ### Matching

For each suffix of a text, the empty one included, a row says whether the tokens match it. The row
of more tokens is computed from the row of fewer ones, the last suffix first. -/

/-- The row whose item for a suffix is computed from the suffix's first character, the given item
for the suffix, the given item for the next suffix, and the computed item for the next suffix. -/
def sweep (step : Char → Bool → Bool → Bool → Bool) (atEnd : Bool → Bool) :
    List Char → List Bool → List Bool
  | [], row => [atEnd (row.headD false)]
  | c :: rest, row =>
    let done := sweep step atEnd rest row.tail
    step c (row.headD false) (row.tail.headD false) (done.headD false) :: done

/-- The row of one token and what follows it, from the row of what follows. -/
def Token.row (text : List Char) (after : List Bool) : Token → List Bool
  | .char value => sweep (fun c _ next _ => c = value && next) (fun _ => false) text after
  | .nameChar => sweep (fun c _ next _ => c ≠ '/' && next) (fun _ => false) text after
  | .nameChars => sweep (fun c here _ done => here || (c ≠ '/' && done)) id text after
  | .anything => sweep (fun c here _ done => here || (c ≠ '\n' && done)) id text after
  | .directories =>
    let inside :=
      sweep (fun c _ next done => (c = '/' && next) || (c ≠ '\n' && done)) (fun _ => false) text
        after
    (after.zip inside).map fun items => items.1 || items.2

/-- The row of no tokens: only the empty suffix is matched. -/
def emptyRow (text : List Char) : List Bool :=
  sweep (fun _ _ _ _ => false) (fun _ => true) text []

def isMatch (tokens : List Token) (text : List Char) : Bool :=
  (tokens.foldr (fun token after => token.row text after) (emptyRow text)).headD false

end ScanMerge.Wildcard

namespace ScanMerge

/-- A pattern as it is configured, with its tokens. -/
structure Wildcard where
  spelling : String
  tokens : List Wildcard.Token
  deriving DecidableEq, Repr

namespace Wildcard

/-- Reads a pattern. One of blanks and separators only is none. -/
def ofString? (spelling : String) : Option Wildcard :=
  let normalized := normalize spelling.toList
  if Text.isBlankText normalized then none else some ⟨spelling, tokenize normalized⟩

def covers (pattern : Wildcard) (path : List Char) : Bool :=
  isMatch pattern.tokens (normalize path)

end Wildcard

end ScanMerge
