import ScanMerge.Proofs.DoubleTexts
import ScanMerge.Proofs.JsonLayouts

/-!
Values of JSON text. A value that is not nested too deep and whose numbers are of 64 bits reads back
from its text with one item or member a line, the doubles in it aside: each of those is read as some
double.
-/

set_option autoImplicit false

namespace ScanMerge.Json

open Decimal (Double)
open Text.Utf8 (encode)

/-! ### Values with other doubles -/

mutual

def mapDoubles (change : Double → Double) : Json → Json
  | .double value => .double (change value)
  | .array items => .array (mapItems change items)
  | .object members => .object (mapMembers change members)
  | .null => .null
  | .bool value => .bool value
  | .integer value => .integer value
  | .string value => .string value

def mapItems (change : Double → Double) : List Json → List Json
  | [] => []
  | item :: rest => mapDoubles change item :: mapItems change rest

def mapMembers (change : Double → Double) : List (String × Json) → List (String × Json)
  | [] => []
  | (name, value) :: rest => (name, mapDoubles change value) :: mapMembers change rest

end

@[simp] theorem mapDoubles_array (change : Double → Double) (items : List Json) :
    mapDoubles change (.array items) = .array (items.map (mapDoubles change)) := by
  rw [mapDoubles]
  congr 1
  induction items with
  | nil => rfl
  | cons item rest ih => rw [mapItems, ih, List.map_cons]

@[simp] theorem mapDoubles_object (change : Double → Double) (members : List (String × Json)) :
    mapDoubles change (.object members) =
      .object (members.map fun member => (member.1, mapDoubles change member.2)) := by
  rw [mapDoubles]
  congr 1
  induction members with
  | nil => rfl
  | cons member rest ih => rw [mapMembers, ih, List.map_cons]

/-- The value has no more than so many arrays and objects one inside the other, its integers are of
64 bits, and its doubles are among the allowed ones. -/
inductive Fits (allowed : Double → Prop) : Nat → Json → Prop where
  | null {depth : Nat} : Fits allowed depth .null
  | bool {depth : Nat} (value : Bool) : Fits allowed depth (.bool value)
  | string {depth : Nat} (value : String) : Fits allowed depth (.string value)
  | integer {depth : Nat} {value : Int} (word : IsWord value) : Fits allowed depth (.integer value)
  | double {depth : Nat} {value : Double} (proper : allowed value) :
      Fits allowed depth (.double value)
  | array {depth : Nat} {items : List Json} (inner : ∀ item ∈ items, Fits allowed depth item) :
      Fits allowed (depth + 1) (.array items)
  | object {depth : Nat} {members : List (String × Json)}
      (inner : ∀ member ∈ members, Fits allowed depth member.2) :
      Fits allowed (depth + 1) (.object members)

theorem Fits.succ {allowed : Double → Prop} {depth : Nat} {value : Json}
    (fits : Fits allowed depth value) : Fits allowed (depth + 1) value := by
  induction fits with
  | null => exact .null
  | bool value => exact .bool value
  | string value => exact .string value
  | integer word => exact .integer word
  | double proper => exact .double proper
  | array inner ih => exact .array ih
  | object inner ih => exact .object ih

/-- More doubles may be allowed. -/
theorem Fits.mono {allowed other : Double → Prop} (more : ∀ value, allowed value → other value)
    {depth : Nat} {value : Json} (fits : Fits allowed depth value) : Fits other depth value := by
  induction fits with
  | null => exact .null
  | bool value => exact .bool value
  | string value => exact .string value
  | integer word => exact .integer word
  | double proper => exact .double (more _ proper)
  | array inner ih => exact .array ih
  | object inner ih => exact .object ih

/-- A value without doubles stays as it is. -/
theorem Fits.mapDoubles_eq {depth : Nat} {value : Json} (fits : Fits (fun _ => False) depth value)
    (change : Double → Double) : mapDoubles change value = value := by
  induction fits with
  | null => rfl
  | bool value => rfl
  | string value => rfl
  | integer word => rfl
  | double proper => exact proper.elim
  | array inner ih =>
    rw [mapDoubles_array, List.map_congr_left ih, List.map_id']
  | @object _ members inner ih =>
    have same : members.map (fun member => (member.1, mapDoubles change member.2)) = members :=
      (List.map_congr_left fun member inside => by rw [ih member inside]).trans (List.map_id' _)
    rw [mapDoubles_object, same]

/-- Every proper double is read as the double that it is replaced by. -/
def Rereads (change : Double → Double) : Prop :=
  ∀ value : Double, value.IsProper → ∀ after, EndsNumber after →
    Gives (readNumber value.negative (encode (magnitudeText value) ++ after))
      (.double (change value)) after

theorem exists_rereads : ∃ change, Rereads change := by
  have some (value : Double) : ∃ read, value.IsProper → ∀ after, EndsNumber after →
      Gives (readNumber value.negative (encode (magnitudeText value) ++ after)) (.double read)
        after := by
    by_cases proper : value.IsProper
    · obtain ⟨read, reads⟩ := gives_magnitudeText proper
      exact ⟨read, fun _ => reads⟩
    · exact ⟨value, fun isProper => absurd isProper proper⟩
  choose change reads using some
  exact ⟨change, reads⟩

/-! ### Elements with commas between them -/

section CommaSeparated

variable {α : Type} (element : α → List Char)

/-- The texts of elements with commas between them. -/
def commaSeparated (values : List α) : List Char :=
  [','].intercalate (values.map element)

theorem commaSeparated_singleton (value : α) : commaSeparated element [value] = element value :=
  List.intercalate_singleton

theorem commaSeparated_cons_cons (value next : α) (rest : List α) :
    commaSeparated element (value :: next :: rest) =
      element value ++ ',' :: commaSeparated element (next :: rest) := by
  simp only [commaSeparated, List.map_cons, List.intercalate_cons_cons, List.append_assoc,
    List.singleton_append]

end CommaSeparated

theorem compactItems_eq (items : List Json) :
    compactItems items = commaSeparated compactText items := by
  induction items with
  | nil => rfl
  | cons item rest ih =>
    cases rest with
    | nil => rw [compactItems, commaSeparated_singleton]
    | cons next rest => rw [compactItems, ih, commaSeparated_cons_cons]

/-- The text of a member without blanks. -/
def compactMember (member : String × Json) : List Char :=
  quoted member.1.toList ++ ':' :: compactText member.2

theorem compactMembers_eq (members : List (String × Json)) :
    compactMembers members = commaSeparated compactMember members := by
  induction members with
  | nil => rfl
  | cons member rest ih =>
    cases rest with
    | nil => rw [compactMembers, commaSeparated_singleton, compactMember]
    | cons next rest =>
      rw [compactMembers, ih, commaSeparated_cons_cons, compactMember, List.append_assoc,
        List.cons_append]

def itemLine (level : Nat) (item : Json) : List Char :=
  lineStart level ++ prettyText level item

theorem prettyItems_eq (level : Nat) (items : List Json) :
    prettyItems level items = commaSeparated (itemLine level) items := by
  induction items with
  | nil => rfl
  | cons item rest ih =>
    cases rest with
    | nil => rw [prettyItems, commaSeparated_singleton, itemLine]
    | cons next rest => rw [prettyItems, ih, commaSeparated_cons_cons, itemLine]

def memberLine (level : Nat) (member : String × Json) : List Char :=
  lineStart level ++ (quoted member.1.toList ++ ':' :: ' ' :: prettyText level member.2)

theorem prettyMembers_eq (level : Nat) (members : List (String × Json)) :
    prettyMembers level members = commaSeparated (memberLine level) members := by
  induction members with
  | nil => rfl
  | cons member rest ih =>
    cases rest with
    | nil => rw [prettyMembers, commaSeparated_singleton, memberLine, List.append_assoc]
    | cons next rest =>
      rw [prettyMembers, ih, commaSeparated_cons_cons, memberLine]
      simp only [List.append_assoc, List.cons_append]

section Elements

variable {α β : Type} {Element : β → List Char → Prop} {change : α → β} {element : α → List Char}

/-- Elements with commas between them stand between brackets. -/
theorem enclosed_commaSeparated {values : List α}
    (areElements : ∀ value ∈ values, Spaced Element (change value) (element value))
    {blanks : List Char} (areBlanks : Blanks blanks) (close : Char) :
    Enclosed Element close (values.map change)
      (commaSeparated element values ++ (blanks ++ [close])) := by
  induction values with
  | nil => exact .empty areBlanks
  | cons value rest ih =>
    obtain ⟨isElement, others⟩ := List.forall_mem_cons.mp areElements
    cases rest with
    | nil =>
      rw [commaSeparated_singleton]
      exact .elements isElement (.done areBlanks)
    | cons next rest =>
      rw [commaSeparated_cons_cons, List.append_assoc]
      exact .elements isElement (ih others).following

end Elements

theorem integerText_eq (value : Int) :
    integerText value =
      (if (value < 0 : Bool) then ['-'] else []) ++ Nat.toDigits 10 value.natAbs := by
  rw [integerText]
  by_cases negative : value < 0 <;> simp [negative]

/-! ### Texts as layouts -/

theorem blanks_lineStart (level : Nat) : Blanks (lineStart level) := by
  intro c member
  rcases List.mem_cons.mp member with rfl | member
  · exact .inr (.inl rfl)
  · exact .inl (List.eq_of_mem_replicate member)

theorem blanks_space : Blanks [' '] :=
  fun _ only => .inl (List.mem_singleton.mp only)

/-- The quoted name of a member and its value, with blanks before the value. -/
theorem memberText_quoted {Inner : Json → List Char → Prop} {name : String} {value : Json}
    {text : List Char} (spaced : Spaced Inner value text) :
    MemberText Inner (name, value) (quoted name.toList ++ ':' :: text) := by
  refine ⟨name.toList, quotedRest name.toList, [], text, spellsText_quotedRest _,
    String.ofList_toList.symm, blanks_nil, spaced, ?_⟩
  simp only [quoted, quotedRest, List.append_assoc, List.cons_append, List.nil_append]

section Tokens

variable {change : Double → Double} (rereads : Rereads change)

include rereads

/-- The text of a value that is neither an array nor an object is a token. -/
theorem isToken_scalarText {value : Json} (fits : Fits Double.IsProper 0 value) :
    IsToken (mapDoubles change value) (scalarText value) := by
  cases fits with
  | null => exact .null
  | bool value =>
    cases value with
    | true => exact .true
    | false => exact .false
  | string value =>
    have token := IsToken.string (spellsText_quotedRest value.toList)
    rw [String.ofList_toList] at token
    exact token
  | integer word =>
    have reads := gives_word word endsNumber_nil
    rw [List.append_nil] at reads
    rw [scalarText, integerText_eq]
    exact .integer reads
  | double proper =>
    have reads := rereads _ proper [] endsNumber_nil
    rw [List.append_nil] at reads
    rw [scalarText, text_eq]
    exact .double reads

/-- The text of a value with one item or member a line is one of its texts, the doubles in it aside.
-/
theorem textOf_prettyText {depth : Nat} {value : Json} (fits : Fits Double.IsProper depth value)
    (level : Nat) : TextOf depth (mapDoubles change value) (prettyText level value) := by
  induction fits generalizing level with
  | null => exact (isToken_scalarText rereads .null).textOf _
  | bool value => exact (isToken_scalarText rereads (.bool value)).textOf _
  | string value => exact (isToken_scalarText rereads (.string value)).textOf _
  | integer word =>
    rw [prettyText]
    exact (isToken_scalarText rereads (.integer word)).textOf _
  | double proper =>
    rw [prettyText]
    exact (isToken_scalarText rereads (.double proper)).textOf _
  | @array depth items inner ih =>
    rw [mapDoubles_array]
    cases items with
    | nil => exact .array (.empty blanks_nil)
    | cons item rest =>
      rw [prettyText, List.append_assoc, prettyItems_eq]
      exact .array (enclosed_commaSeparated (fun item inside =>
        ⟨_, _, blanks_lineStart (level + 1), ih item inside (level + 1), rfl⟩)
        (blanks_lineStart level) ']')
  | @object depth members inner ih =>
    rw [mapDoubles_object]
    cases members with
    | nil => exact .object (.empty blanks_nil)
    | cons member rest =>
      rw [prettyText, List.append_assoc, prettyMembers_eq]
      exact .object (enclosed_commaSeparated (fun member inside =>
        ⟨_, _, blanks_lineStart (level + 1),
          memberText_quoted ⟨[' '], _, blanks_space, ih member inside (level + 1), rfl⟩, rfl⟩)
        (blanks_lineStart level) '}')

/-- So is its text without blanks. -/
theorem textOf_compactText {depth : Nat} {value : Json} (fits : Fits Double.IsProper depth value) :
    TextOf depth (mapDoubles change value) (compactText value) := by
  induction fits with
  | null => exact (isToken_scalarText rereads .null).textOf _
  | bool value => exact (isToken_scalarText rereads (.bool value)).textOf _
  | string value => exact (isToken_scalarText rereads (.string value)).textOf _
  | integer word =>
    rw [compactText]
    exact (isToken_scalarText rereads (.integer word)).textOf _
  | double proper =>
    rw [compactText]
    exact (isToken_scalarText rereads (.double proper)).textOf _
  | @array depth items inner ih =>
    rw [mapDoubles_array, compactText, compactItems_eq]
    exact .array (enclosed_commaSeparated
      (fun item inside => spaced_of_element (ih item inside)) blanks_nil ']')
  | @object depth members inner ih =>
    rw [mapDoubles_object, compactText, compactMembers_eq]
    exact .object (enclosed_commaSeparated
      (fun member inside =>
        spaced_of_element (memberText_quoted (spaced_of_element (ih member inside))))
      blanks_nil '}')

end Tokens

/-- A value without doubles has both texts. -/
theorem textOf_written {depth : Nat} {value : Json} (fits : Fits (fun _ => False) depth value)
    (level : Nat) :
    TextOf depth value (compactText value) ∧ TextOf depth value (prettyText level value) := by
  obtain ⟨change, rereads⟩ := exists_rereads
  have proper : Fits Double.IsProper depth value := fits.mono fun _ impossible => impossible.elim
  have compact := textOf_compactText rereads proper
  have pretty := textOf_prettyText rereads proper level
  rw [fits.mapDoubles_eq] at compact pretty
  exact ⟨compact, pretty⟩

/-- A value is parsed from its text, its doubles aside. -/
theorem parse_pretty {change : Double → Double} (rereads : Rereads change) {depth : Nat}
    {value : Json} (fits : Fits Double.IsProper depth value) (notTooDeep : depth < nestingLimit) :
    parse (Text.Utf8.encodeString value.pretty) = .ok (normal (mapDoubles change value)) := by
  have isText := textOf_prettyText rereads fits 0
  obtain ⟨shorter, read⟩ := isText.takes notTooDeep _ [] endsNumber_nil
    (isText.startsValue.skipSpaces_eq.trans (List.append_nil _).symm)
  rw [pretty, Text.Utf8.encodeString, String.toList_ofList, parse, readWhole, read]
  rfl

end ScanMerge.Json
