import ScanMerge.Proofs.JsonNumbers

/-!
Readers of JSON values. What stands at the front of an input decides what a reader gives: a word, a
number, a string, or what it gives of the items or the members that follow.
-/

set_option autoImplicit false

namespace ScanMerge.Json

open Text.Utf8 (encode)

/-! ### Starts of values -/

/-- A value can start here: neither a blank nor a closing bracket stands at the front. -/
def StartsValue (input : List UInt8) : Prop :=
  ∃ byte rest, input = byte :: rest ∧ isSpace byte = false ∧ byte ≠ 0x5D

theorem skipSpaces_cons {byte : UInt8} (notSpace : isSpace byte = false) (rest : List UInt8) :
    skipSpaces (byte :: rest) = byte :: rest :=
  List.dropWhile_cons_of_neg (by rw [notSpace]; exact Bool.false_ne_true)

theorem StartsValue.skipSpaces_eq {input : List UInt8} (starts : StartsValue input) :
    skipSpaces input = input := by
  obtain ⟨byte, rest, rfl, notSpace, -⟩ := starts
  exact skipSpaces_cons notSpace rest

theorem StartsValue.append {input : List UInt8} (starts : StartsValue input)
    (after : List UInt8) : StartsValue (input ++ after) := by
  obtain ⟨byte, rest, rfl, proper⟩ := starts
  exact ⟨byte, rest ++ after, rfl, proper⟩

/-! ### Words, numbers and strings -/

theorem isSpace_of_isDigit {byte : UInt8} (digit : isDigit byte = true) : isSpace byte = false := by
  rw [Bool.eq_false_iff]
  intro space
  simp only [isSpace, Bool.or_eq_true, decide_eq_true_eq] at space
  rcases space with ((rfl | rfl) | rfl) | rfl <;> cases digit

theorem startsValue_digits {digits : List UInt8} {negative : Bool} {value : Json}
    {after : List UInt8} (reads : Gives (readNumber negative digits) value after) :
    StartsValue ((if negative then [0x2D] else []) ++ digits) := by
  obtain ⟨first, others, rfl, digit⟩ := isDigit_of_gives reads
  cases negative with
  | true => exact ⟨0x2D, first :: others, rfl, rfl, by decide⟩
  | false =>
    refine ⟨first, others, rfl, isSpace_of_isDigit digit, ?_⟩
    rintro rfl
    cases digit

theorem encode_signed (negative : Bool) (digits : List Char) :
    encode ((if negative then ['-'] else []) ++ digits) =
      (if negative then [0x2D] else []) ++ encode digits := by
  rw [Text.Utf8.encode_append]
  cases negative <;> rfl

section Tokens

variable {limit : Nat} {input rest after : List UInt8}

theorem gives_readIdent (expected rest : List UInt8) :
    ∃ notLonger, readIdent expected (expected ++ rest) = .ok ⟨rest, notLonger⟩ := by
  induction expected with
  | nil => exact ⟨.refl, rfl⟩
  | cons byte others ih =>
    obtain ⟨notLonger, read⟩ := ih
    refine ⟨notLonger.cons, ?_⟩
    change readIdent (byte :: others) (byte :: (others ++ rest)) = _
    rw [readIdent, if_pos rfl, read]
    rfl

/-- A word for a value, its first byte apart. -/
inductive IsKeyword : UInt8 → List UInt8 → Json → Prop where
  | null : IsKeyword 0x6E [0x75, 0x6C, 0x6C] .null
  | true : IsKeyword 0x74 [0x72, 0x75, 0x65] (.bool true)
  | false : IsKeyword 0x66 [0x61, 0x6C, 0x73, 0x65] (.bool false)

theorem gives_keyword {first : UInt8} {others : List UInt8} {value : Json}
    (keyword : IsKeyword first others value)
    (front : skipSpaces input = first :: (others ++ after)) :
    Gives (readValue limit input) value after := by
  obtain ⟨notLonger, read⟩ := gives_readIdent others after
  refine ⟨notLonger.trans_shorter (shorter_of_skipSpaces front), ?_⟩
  rw [readValue.eq_def]
  split
  · next shape => rw [front] at shape; cases shape
  · next byte last shape =>
    rw [front] at shape
    injection shape with sameByte sameRest
    subst sameByte sameRest
    cases keyword <;> simp only [read] <;> rfl

/-- The sign of a number and its digits. -/
theorem gives_signedNumber {negative : Bool} {digits : List UInt8} {value : Json}
    (reads : Gives (readNumber negative digits) value after)
    (front : skipSpaces input = (if negative then [0x2D] else []) ++ digits) :
    Gives (readValue limit input) value after := by
  obtain ⟨first, others, rfl, digit⟩ := isDigit_of_gives reads
  obtain ⟨shorter, read⟩ := reads
  cases negative with
  | true =>
    rw [if_pos rfl, List.singleton_append] at front
    refine ⟨shorter.trans (shorter_of_skipSpaces front), ?_⟩
    rw [readValue.eq_def]
    split
    · next shape => rw [front] at shape; cases shape
    · next byte last shape =>
      rw [front] at shape
      cases shape
      simp only [read]
      rfl
  | false =>
    refine ⟨shorter_behind_spaces front shorter, ?_⟩
    rw [readValue.eq_def]
    split
    · next shape => rw [front] at shape; cases shape
    · next byte last shape =>
      rw [front] at shape
      injection shape with sameByte sameRest
      subst sameByte sameRest
      have different (other : UInt8) (noDigit : isDigit other = false) : first ≠ other := by
        rintro rfl
        rw [digit] at noDigit
        cases noDigit
      simp only [different 0x6E rfl, different 0x74 rfl, different 0x66 rfl, different 0x2D rfl,
        digit, if_false, if_true, read]

theorem gives_string {text : String} (front : skipSpaces input = 0x22 :: rest)
    (reads : Gives (readString rest) text after) :
    Gives (readValue limit input) (.string text) after := by
  obtain ⟨shorter, read⟩ := reads
  refine ⟨shorter.trans (shorter_of_skipSpaces front), ?_⟩
  rw [readValue.eq_def]
  split
  · next shape => rw [front] at shape; cases shape
  · next byte last shape =>
    rw [front] at shape
    cases shape
    simp only [read]
    rfl

theorem gives_array {inner : Nat} {items : List Json} (positive : 0 < inner)
    (front : skipSpaces input = 0x5B :: rest)
    (reads : Gives (readItems (readValue inner) true rest) items after) :
    Gives (readValue (inner + 1) input) (.array items) after := by
  obtain ⟨shorter, read⟩ := reads
  refine ⟨shorter.trans (shorter_of_skipSpaces front), ?_⟩
  rw [readValue.eq_def]
  split
  · next shape => rw [front] at shape; cases shape
  · next byte last shape =>
    rw [front] at shape
    cases shape
    obtain ⟨deeper, rfl⟩ := Nat.exists_eq_succ_of_ne_zero (Nat.ne_of_gt positive)
    simp only [read]
    rfl

theorem gives_object {inner : Nat} {members : List (String × Json)} (positive : 0 < inner)
    (front : skipSpaces input = 0x7B :: rest)
    (reads : Gives (readMembers (readValue inner) true rest) members after) :
    Gives (readValue (inner + 1) input) (.object members) after := by
  obtain ⟨shorter, read⟩ := reads
  refine ⟨shorter.trans (shorter_of_skipSpaces front), ?_⟩
  rw [readValue.eq_def]
  split
  · next shape => rw [front] at shape; cases shape
  · next byte last shape =>
    rw [front] at shape
    cases shape
    obtain ⟨deeper, rfl⟩ := Nat.exists_eq_succ_of_ne_zero (Nat.ne_of_gt positive)
    simp only [read]
    rfl

end Tokens

/-! ### Items -/

section Items

variable {α : Type} {read : (input : List UInt8) → Reading α input} {value : α} {values : List α}
  {first : Bool} {byte : UInt8} {input rest next after : List UInt8}

theorem gives_noItem (front : skipSpaces input = 0x5D :: after) :
    Gives (readItems read first input) [] after := by
  refine ⟨shorter_of_skipSpaces front, ?_⟩
  have done : nextItem first input = .ok (.done after (shorter_of_skipSpaces front)) := by
    rw [nextItem]
    split
    · next shape => rw [front] at shape; cases shape
    · next byte last shape =>
      rw [front] at shape
      cases shape
      rfl
  rw [readItems, done]

theorem gives_item {bound : NotLonger rest input} (element : nextItem first input =
      .ok (.element rest bound)) (reads : Gives (read rest) value next)
    (others : Gives (readItems read false next) values after) :
    Gives (readItems read first input) (value :: values) after := by
  obtain ⟨shorter, read⟩ := reads
  obtain ⟨shorter', others⟩ := others
  refine ⟨shorter'.trans (shorter.trans_notLonger bound), ?_⟩
  rw [readItems, element]
  simp only [read, others]

theorem nextItem_first (front : skipSpaces input = byte :: rest) (notEnd : byte ≠ 0x5D) :
    ∃ bound, nextItem true input = .ok (.element (byte :: rest) bound) := by
  refine ⟨notLonger_of_skipSpaces front, ?_⟩
  rw [nextItem]
  split
  · next shape => rw [front] at shape; cases shape
  · next other last shape =>
    rw [front] at shape
    cases shape
    rw [if_neg notEnd, if_pos rfl]

theorem nextItem_following (front : skipSpaces input = 0x2C :: rest)
    (start : skipSpaces rest = byte :: next) (notEnd : byte ≠ 0x5D) :
    ∃ bound, nextItem false input = .ok (.element rest bound) := by
  refine ⟨(shorter_of_skipSpaces front).notLonger, ?_⟩
  rw [nextItem]
  split
  · next shape => rw [front] at shape; cases shape
  · next other last shape =>
    rw [front] at shape
    cases shape
    rw [if_neg (by decide), if_neg Bool.false_ne_true, if_pos rfl, start]
    exact if_neg notEnd

end Items

/-! ### Members -/

section Members

variable {α : Type} {read : (input : List UInt8) → Reading α input} {name : String} {value : α}
  {values : List (String × α)} {first : Bool} {input rest next after : List UInt8}

theorem gives_noMember (front : skipSpaces input = 0x7D :: after) :
    Gives (readMembers read first input) [] after := by
  refine ⟨shorter_of_skipSpaces front, ?_⟩
  have done : nextMember first input = .ok (.done after (shorter_of_skipSpaces front)) := by
    rw [nextMember]
    split
    · next shape => rw [front] at shape; cases shape
    · next byte last shape =>
      rw [front] at shape
      cases shape
      rfl
  rw [readMembers, done]

theorem gives_readMember {start : List UInt8} (reads : Gives (readString input) name rest)
    (colon : skipSpaces rest = 0x3A :: start) (item : Gives (read start) value after) :
    Gives (readMember read input) (name, value) after := by
  obtain ⟨shorter, text⟩ := reads
  obtain ⟨shorter', item⟩ := item
  refine ⟨shorter'.trans ((shorter_of_skipSpaces colon).trans shorter), ?_⟩
  have passed : readColon rest = .ok ⟨start, shorter_of_skipSpaces colon⟩ := by
    rw [readColon]
    split
    · next shape => rw [colon] at shape; cases shape
    · next byte last shape =>
      rw [colon] at shape
      cases shape
      rfl
  rw [readMember, text]
  simp only [passed, item]

theorem gives_member {bound : NotLonger rest input} {member : String × α}
    (element : nextMember first input = .ok (.element rest bound))
    (reads : Gives (readMember read rest) member next)
    (others : Gives (readMembers read false next) values after) :
    Gives (readMembers read first input) (member :: values) after := by
  obtain ⟨shorter, read⟩ := reads
  obtain ⟨shorter', others⟩ := others
  refine ⟨shorter'.trans (shorter.trans_notLonger bound), ?_⟩
  rw [readMembers, element]
  simp only [read, others]

theorem nextMember_first (front : skipSpaces input = 0x22 :: rest) :
    ∃ bound, nextMember true input = .ok (.element rest bound) := by
  refine ⟨(shorter_of_skipSpaces front).notLonger, ?_⟩
  rw [nextMember]
  split
  · next shape => rw [front] at shape; cases shape
  · next other last shape =>
    rw [front] at shape
    cases shape
    rfl

theorem nextMember_following (front : skipSpaces input = 0x2C :: rest)
    (start : skipSpaces rest = 0x22 :: next) :
    ∃ bound, nextMember false input = .ok (.element next bound) := by
  refine ⟨((shorter_of_skipSpaces start).trans (shorter_of_skipSpaces front)).notLonger, ?_⟩
  rw [nextMember]
  split
  · next shape => rw [front] at shape; cases shape
  · next other last shape =>
    rw [front] at shape
    cases shape
    rw [if_neg (by decide), if_neg Bool.false_ne_true, if_pos rfl]
    split
    · next shape => rw [start] at shape; cases shape
    · next byte others shape =>
      rw [start] at shape
      cases shape
      rfl

end Members

end ScanMerge.Json
