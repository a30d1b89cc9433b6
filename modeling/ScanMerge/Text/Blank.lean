/-!
Blank characters: the Unicode property White_Space, and cutting blanks off both ends of a text.
-/

set_option autoImplicit false

namespace ScanMerge.Text

/-- The characters with the property White_Space. -/
def isBlank (c : Char) : Bool :=
  (0x09 ≤ c.toNat && c.toNat ≤ 0x0D) || (0x2000 ≤ c.toNat && c.toNat ≤ 0x200A) ||
    [0x20, 0x85, 0xA0, 0x1680, 0x2028, 0x2029, 0x202F, 0x205F, 0x3000].contains c.toNat

/-- A text without the blanks at its two ends. -/
def trim (text : List Char) : List Char :=
  ((text.dropWhile isBlank).reverse.dropWhile isBlank).reverse

@[simp] theorem trim_nil : trim [] = [] := rfl

/-- A text is blank when it holds blanks only. -/
def isBlankText (text : List Char) : Bool :=
  text.all isBlank

end ScanMerge.Text
