/-!
Markdown documents as lists of blocks, and their text. Every block ends with an empty line.
-/

set_option autoImplicit false

namespace ScanMerge.Markdown

/-- How the cells of a column are aligned. -/
inductive Alignment where
  | left
  | centre
  | right
  deriving DecidableEq, Repr

/-- The mark of an alignment below the head of a table. -/
def Alignment.mark : Alignment → String
  | .left => ":---"
  | .centre => ":---:"
  | .right => "---:"

structure Column where
  title : String
  alignment : Alignment
  deriving DecidableEq, Repr

/-- An item of a list, inside another item or not. -/
structure Bullet where
  nested : Bool
  text : String
  deriving DecidableEq, Repr

inductive Block where
  | heading (level : Nat) (text : String)
  | paragraph (text : String)
  | bullets (items : List Bullet)
  | table (columns : List Column) (rows : List (List String))
  /-- A horizontal line. -/
  | rule
  deriving DecidableEq, Repr

/-- A line of a table. -/
def rowText (cells : List String) : String :=
  "| " ++ " | ".intercalate cells ++ " |\n"

/-- The line below the head of a table. -/
def alignmentText (columns : List Column) : String :=
  "|" ++ String.join (columns.map fun column => column.alignment.mark ++ "|") ++ "\n"

def Bullet.line (bullet : Bullet) : String :=
  (if bullet.nested then "  - " else "- ") ++ bullet.text ++ "\n"

/-- The text of a block, without the empty line after it. -/
def Block.body : Block → String
  | .heading level text => String.ofList (List.replicate level '#') ++ " " ++ text ++ "\n"
  | .paragraph text => text ++ "\n"
  | .bullets items => String.join (items.map Bullet.line)
  | .table columns rows =>
    rowText (columns.map (·.title)) ++ alignmentText columns ++ String.join (rows.map rowText)
  | .rule => "---\n"

def render (blocks : List Block) : String :=
  String.join (blocks.map fun block => block.body ++ "\n")

end ScanMerge.Markdown
