/-!
Lines of a text. A line feed ends a line and so does a carriage return with a line feed; what
follows the last line feed is a line unless it is empty.
-/

set_option autoImplicit false

namespace ScanMerge.Text

/-- A text cut at its line feeds. There is one part more than there are line feeds. -/
def splitAtLineFeeds : List Char → List (List Char)
  | [] => [[]]
  | c :: rest =>
    if c = '\n' then
      [] :: splitAtLineFeeds rest
    else
      match splitAtLineFeeds rest with
      | [] => [[c]]
      | first :: others => (c :: first) :: others

/-- A line without the carriage return at its end. -/
def dropCarriageReturn (line : List Char) : List Char :=
  if line.getLast? = some '\r' then line.dropLast else line

/-- The parts that a line feed ends, each without its carriage return, and the last part unless it
is empty. -/
def linesOfParts : List (List Char) → List (List Char)
  | [] => []
  | [last] => if last = [] then [] else [last]
  | part :: next :: rest => dropCarriageReturn part :: linesOfParts (next :: rest)

def lines (text : List Char) : List (List Char) :=
  linesOfParts (splitAtLineFeeds text)

@[simp] theorem lines_nil : lines [] = [] := rfl

/-- Whether `part` stands somewhere in `text`. -/
def containsText (part : List Char) : List Char → Bool
  | [] => part.isEmpty
  | c :: rest => part.isPrefixOf (c :: rest) || containsText part rest

end ScanMerge.Text
