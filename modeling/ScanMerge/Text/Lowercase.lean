import ScanMerge.Text.CaseTable

/-!
Full Unicode lower-casing. Each character is mapped on its own, with two exceptions of the
standard: a capital I with a dot above becomes two characters, and a capital sigma becomes the final
form at the end of a word.
-/

set_option autoImplicit false

namespace ScanMerge.Text

/-- Whether a character has the property Cased. -/
def isCased (c : Char) : Bool :=
  CaseTable.within CaseTable.casedRanges c.toNat

/-- Whether a character has the property Case_Ignorable. -/
def isCaseIgnorable (c : Char) : Bool :=
  CaseTable.within CaseTable.caseIgnorableRanges c.toNat

/-- The lower-case mapping of one character, without regard to its neighbours. -/
def lowerChar (c : Char) : List Char :=
  if c.toNat < 0x80 then
    [c.toLower]
  else if c = 'İ' then
    ['i', '\u0307']
  else
    [((CaseTable.lowerRuns.findSome? (·.lower? c.toNat)).map Char.ofNat).getD c]

/-- Whether the first character that is not case-ignorable is cased. -/
def meetsCased (text : List Char) : Bool :=
  match text.dropWhile isCaseIgnorable with
  | [] => false
  | c :: _ => isCased c

/-- Lower-cases the rest of a text whose characters so far are given in reverse. -/
def lowercaseAfter (before : List Char) : List Char → List Char
  | [] => []
  | c :: rest =>
    let lowered :=
      if c = 'Σ' then
        if meetsCased before && !meetsCased rest then ['ς'] else ['σ']
      else
        lowerChar c
    lowered ++ lowercaseAfter (c :: before) rest

/-- The lower-case form of a text. A sigma is final when a cased character stands before it and none
after it, case-ignorable characters aside. -/
def lowercase (text : List Char) : List Char :=
  lowercaseAfter [] text

@[simp] theorem lowercase_nil : lowercase [] = [] := rfl

/-- The lower-case form of a string. -/
def lowercaseString (text : String) : String :=
  String.ofList (lowercase text.toList)

end ScanMerge.Text
