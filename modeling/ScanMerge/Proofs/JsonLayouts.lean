import ScanMerge.Proofs.JsonNumerals
import ScanMerge.Proofs.JsonReaders

/-!
Layouts of JSON text. A value may be written with any blanks between its tokens, and whatever the
blanks are, it is read from each of its texts.
-/

set_option autoImplicit false

namespace ScanMerge.Json

open Text.Utf8 (encode)

/-! ### Layouts -/

/-- Spaces, tabs and line ends. -/
def Blanks (text : List Char) : Prop :=
  ∀ c ∈ text, c = ' ' ∨ c = '\n' ∨ c = '\r' ∨ c = '\t'

/-- The text is a token for the value. -/
inductive IsToken : Json → List Char → Prop where
  | null : IsToken .null "null".toList
  | true : IsToken (.bool true) "true".toList
  | false : IsToken (.bool false) "false".toList
  | string {text spelling : List Char} (spells : SpellsText text spelling) :
      IsToken (.string (String.ofList text)) ('"' :: spelling)
  | integer {negative : Bool} {digits : List Char} {value : Int}
      (numeral : IsNumeral negative digits (.integer value)) :
      IsToken (.integer value) ((if negative then ['-'] else []) ++ digits)
  | double {negative : Bool} {digits : List Char} {value : Decimal.Double}
      (numeral : IsNumeral negative digits (.double value)) :
      IsToken (.double value) ((if negative then ['-'] else []) ++ digits)

section Layouts

variable {α : Type}

/-- Something with blanks in front. -/
def Spaced (Element : α → List Char → Prop) (value : α) (text : List Char) : Prop :=
  ∃ blanks rest, Blanks blanks ∧ Element value rest ∧ text = blanks ++ rest

/-- What stands between an element and the end of its array or object: other elements behind commas,
and the closing bracket. -/
inductive Following (Element : α → List Char → Prop) (close : Char) :
    List α → List Char → Prop where
  | done {blanks : List Char} (areBlanks : Blanks blanks) :
      Following Element close [] (blanks ++ [close])
  | next {blanks text others : List Char} {value : α} {values : List α}
      (areBlanks : Blanks blanks) (element : Spaced Element value text)
      (rest : Following Element close values others) :
      Following Element close (value :: values) (blanks ++ ',' :: (text ++ others))

/-- What stands behind an opening bracket. -/
inductive Enclosed (Element : α → List Char → Prop) (close : Char) :
    List α → List Char → Prop where
  | empty {blanks : List Char} (areBlanks : Blanks blanks) :
      Enclosed Element close [] (blanks ++ [close])
  | elements {text others : List Char} {value : α} {values : List α}
      (element : Spaced Element value text) (rest : Following Element close values others) :
      Enclosed Element close (value :: values) (text ++ others)

/-- The name of a member in quotes, a colon, and its value. -/
def MemberText (Inner : Json → List Char → Prop) (member : String × Json) (text : List Char) :
    Prop :=
  ∃ name spelling blanks value, SpellsText name spelling ∧ member.1 = String.ofList name ∧
    Blanks blanks ∧ Spaced Inner member.2 value ∧
      text = '"' :: (spelling ++ (blanks ++ ':' :: value))

/-- A token, or an array or an object of inner values. The texts of these are given, so that those
of any depth come by recursion. -/
inductive Layered (Inner : Json → List Char → Prop) : Json → List Char → Prop where
  | token {value : Json} {text : List Char} (token : IsToken value text) : Layered Inner value text
  | array {items : List Json} {text : List Char} (enclosed : Enclosed Inner ']' items text) :
      Layered Inner (.array items) ('[' :: text)
  | object {members : List (String × Json)} {text : List Char}
      (enclosed : Enclosed (MemberText Inner) '}' members text) :
      Layered Inner (.object members) ('{' :: text)

end Layouts

/-- The text is one of the value, which has no more than so many arrays and objects one inside the
other. -/
def TextOf : Nat → Json → List Char → Prop
  | 0 => IsToken
  | depth + 1 => Layered (TextOf depth)

/-! ### Blanks -/

theorem isSpace_of_mem_blanks {blanks : List Char} (areBlanks : Blanks blanks) :
    ∀ byte ∈ encode blanks, isSpace byte = true := by
  induction blanks with
  | nil => exact nofun
  | cons c rest ih =>
    obtain ⟨first, areBlanks⟩ := List.forall_mem_cons.mp areBlanks
    rw [Text.Utf8.encode_cons]
    intro byte member
    rcases List.mem_append.mp member with member | member
    · rcases first with rfl | rfl | rfl | rfl <;> cases List.mem_singleton.mp member <;> rfl
    · exact ih areBlanks byte member

theorem blanks_nil : Blanks [] :=
  nofun

theorem skipSpaces_blanks {blanks : List Char} (areBlanks : Blanks blanks) (input : List UInt8) :
    skipSpaces (encode blanks ++ input) = skipSpaces input :=
  List.dropWhile_append_of_pos (isSpace_of_mem_blanks areBlanks)

theorem endsNumber_of_isSpace {byte : UInt8} (space : isSpace byte = true) (rest : List UInt8) :
    EndsNumber (byte :: rest) := by
  simp only [isSpace, Bool.or_eq_true, decide_eq_true_eq] at space
  refine endsNumber_cons ?_ rest
  rcases space with ((rfl | rfl) | rfl) | rfl <;> decide

theorem endsNumber_blanks {blanks : List Char} (areBlanks : Blanks blanks) {input : List UInt8}
    (ends : EndsNumber input) : EndsNumber (encode blanks ++ input) := by
  have spaces := isSpace_of_mem_blanks areBlanks
  generalize encode blanks = bytes at spaces ⊢
  cases bytes with
  | nil => exact ends
  | cons byte rest => exact endsNumber_of_isSpace (spaces byte List.mem_cons_self) _

/-! ### Reading -/

/-- A reader takes the value from its text, whatever blanks stand before it and whatever behind. -/
def Takes {α : Type} (read : (input : List UInt8) → Reading α input) (value : α)
    (text : List Char) : Prop :=
  ∀ input after, EndsNumber after → skipSpaces input = encode text ++ after →
    Gives (read input) value after

theorem IsToken.startsValue {value : Json} {text : List Char} (token : IsToken value text) :
    StartsValue (encode text) := by
  cases token with
  | null => exact ⟨0x6E, _, rfl, rfl, by decide⟩
  | true => exact ⟨0x74, _, rfl, rfl, by decide⟩
  | false => exact ⟨0x66, _, rfl, rfl, by decide⟩
  | string spells => exact ⟨0x22, _, rfl, rfl, by decide⟩
  | integer numeral =>
    rw [encode_signed]
    exact startsValue_digits numeral
  | double numeral =>
    rw [encode_signed]
    exact startsValue_digits numeral

theorem IsToken.takes {value : Json} {text : List Char} (token : IsToken value text) (limit : Nat) :
    Takes (readValue limit) value text := by
  intro input after ends front
  have number {negative : Bool} {digits : List Char} {value : Json}
      (numeral : IsNumeral negative digits value)
      (front : skipSpaces input = encode ((if negative then ['-'] else []) ++ digits) ++ after) :
      Gives (readValue limit input) value after := by
    rw [encode_signed, List.append_assoc] at front
    exact gives_signedNumber (gives_readNumber_append ends numeral) front
  cases token with
  | null => exact gives_keyword .null front
  | true => exact gives_keyword .true front
  | false => exact gives_keyword .false front
  | string spells =>
    rw [Text.Utf8.encode_cons] at front
    exact gives_string front (gives_spelledText spells after)
  | integer numeral => exact number numeral front
  | double numeral => exact number numeral front

theorem encode_append_append (front back : List Char) (after : List UInt8) :
    encode (front ++ back) ++ after = encode front ++ (encode back ++ after) := by
  rw [Text.Utf8.encode_append, List.append_assoc]

section Elements

variable {α : Type} {Element : α → List Char → Prop} {close : Char} {value : α} {values : List α}
  {text : List Char}

/-- Nothing has to stand in front of an element. -/
theorem spaced_of_element (isElement : Element value text) : Spaced Element value text :=
  ⟨[], text, blanks_nil, isElement, rfl⟩

/-- Elements between brackets follow another one when there is a comma before them. -/
theorem Enclosed.following (enclosed : Enclosed Element close (value :: values) text) :
    Following Element close (value :: values) (',' :: text) := by
  cases enclosed with
  | elements element rest => exact .next blanks_nil element rest

/-- What follows an element ends a number in it. -/
theorem Following.endsNumber (following : Following Element close values text)
    (closes : ∀ after, EndsNumber (encode [close] ++ after)) (after : List UInt8) :
    EndsNumber (encode text ++ after) := by
  cases following with
  | done areBlanks =>
    rw [encode_append_append]
    exact endsNumber_blanks areBlanks (closes after)
  | next areBlanks element rest =>
    rw [encode_append_append]
    exact endsNumber_blanks areBlanks (endsNumber_cons (by decide) _)

/-- Behind the blanks in front of an element stands the element. -/
theorem Spaced.front (spaced : Spaced Element value text)
    (starts : ∀ text, Element value text → StartsValue (encode text)) (after : List UInt8) :
    ∃ element, Element value element ∧ StartsValue (encode element ++ after) ∧
      skipSpaces (encode text ++ after) = encode element ++ after := by
  obtain ⟨blanks, element, areBlanks, isElement, rfl⟩ := spaced
  have proper := (starts element isElement).append after
  refine ⟨element, isElement, proper, ?_⟩
  rw [encode_append_append, skipSpaces_blanks areBlanks, proper.skipSpaces_eq]

/-- The closing bracket comes next. -/
theorem skipSpaces_close {blanks : List Char} (areBlanks : Blanks blanks) {byte : UInt8}
    (bracket : encode [close] = [byte]) (notSpace : isSpace byte = false) (after : List UInt8) :
    skipSpaces (encode (blanks ++ [close]) ++ after) = byte :: after := by
  rw [encode_append_append, skipSpaces_blanks areBlanks, bracket]
  exact skipSpaces_cons notSpace after

/-- A comma comes next. -/
theorem skipSpaces_comma {blanks : List Char} (areBlanks : Blanks blanks) (text others : List Char)
    (after : List UInt8) :
    skipSpaces (encode (blanks ++ ',' :: (text ++ others)) ++ after) =
      0x2C :: (encode text ++ (encode others ++ after)) := by
  rw [encode_append_append, skipSpaces_blanks areBlanks, ← encode_append_append]
  exact skipSpaces_cons rfl (encode (text ++ others) ++ after)

end Elements

section Reading

variable {Inner : Json → List Char → Prop} {read : (input : List UInt8) → Reading Json input}
  {text : List Char}

theorem gives_followingItems {items : List Json} (following : Following Inner ']' items text)
    (starts : ∀ item text, Inner item text → StartsValue (encode text))
    (takes : ∀ item text, Inner item text → Takes read item text) (after : List UInt8) :
    Gives (readItems read false (encode text ++ after)) items after := by
  induction following with
  | done areBlanks => exact gives_noItem (skipSpaces_close areBlanks rfl rfl after)
  | @next blanks text others item items areBlanks element rest ih =>
    have comma := skipSpaces_comma areBlanks text others after
    obtain ⟨inner, isInner, ⟨byte, last, shape, -, notEnd⟩, front⟩ :=
      element.front (starts item) (encode others ++ after)
    obtain ⟨bound, next⟩ := nextItem_following comma (front.trans shape) notEnd
    have ends := rest.endsNumber (endsNumber_cons (by decide)) after
    exact gives_item next (takes item inner isInner _ _ ends front) ih

theorem gives_enclosedItems {items : List Json} (enclosed : Enclosed Inner ']' items text)
    (starts : ∀ item text, Inner item text → StartsValue (encode text))
    (takes : ∀ item text, Inner item text → Takes read item text) (after : List UInt8) :
    Gives (readItems read true (encode text ++ after)) items after := by
  cases enclosed with
  | empty areBlanks => exact gives_noItem (skipSpaces_close areBlanks rfl rfl after)
  | @elements text others item items element rest =>
    rw [encode_append_append]
    obtain ⟨inner, isInner, proper, front⟩ :=
      element.front (starts item) (encode others ++ after)
    have same := proper.skipSpaces_eq
    obtain ⟨byte, last, shape, -, notEnd⟩ := proper
    -- The first item is read without the blanks before it, every later one with them.
    obtain ⟨bound, next⟩ := nextItem_first (front.trans shape) notEnd
    have ends := rest.endsNumber (endsNumber_cons (by decide)) after
    rw [shape] at same
    exact gives_item next (takes item inner isInner _ _ ends (same.trans shape.symm))
      (gives_followingItems rest starts takes after)

theorem startsValue_memberText {member : String × Json} (isMember : MemberText Inner member text) :
    StartsValue (encode text) := by
  obtain ⟨name, spelling, blanks, value, spells, named, areBlanks, spaced, rfl⟩ := isMember
  exact ⟨0x22, _, rfl, rfl, by decide⟩

theorem gives_memberText {member : String × Json} (isMember : MemberText Inner member text)
    (starts : ∀ value text, Inner value text → StartsValue (encode text))
    (takes : ∀ value text, Inner value text → Takes read value text) {after : List UInt8}
    (ends : EndsNumber after) :
    ∃ rest, encode text ++ after = 0x22 :: rest ∧ Gives (readMember read rest) member after := by
  obtain ⟨name, spelling, blanks, value, spells, named, areBlanks, spaced, rfl⟩ := isMember
  have colon : skipSpaces (encode (blanks ++ ':' :: value) ++ after) =
      0x3A :: (encode value ++ after) := by
    rw [encode_append_append, skipSpaces_blanks areBlanks]
    exact skipSpaces_cons rfl (encode value ++ after)
  refine ⟨encode spelling ++ (encode (blanks ++ ':' :: value) ++ after), ?_, ?_⟩
  · rw [← encode_append_append]
    rfl
  · obtain ⟨inner, isInner, -, front⟩ := spaced.front (starts member.2) after
    have reads := gives_readMember (gives_spelledText spells _) colon
      (takes member.2 inner isInner _ _ ends front)
    rw [← named] at reads
    exact reads

theorem gives_followingMembers {members : List (String × Json)}
    (following : Following (MemberText Inner) '}' members text)
    (starts : ∀ value text, Inner value text → StartsValue (encode text))
    (takes : ∀ value text, Inner value text → Takes read value text) (after : List UInt8) :
    Gives (readMembers read false (encode text ++ after)) members after := by
  induction following with
  | done areBlanks => exact gives_noMember (skipSpaces_close areBlanks rfl rfl after)
  | @next blanks text others member members areBlanks element rest ih =>
    have comma := skipSpaces_comma areBlanks text others after
    obtain ⟨inner, isInner, -, front⟩ :=
      element.front (fun _ => startsValue_memberText) (encode others ++ after)
    have ends := rest.endsNumber (endsNumber_cons (by decide)) after
    obtain ⟨last, shape, reads⟩ := gives_memberText isInner starts takes ends
    obtain ⟨bound, next⟩ := nextMember_following comma (front.trans shape)
    exact gives_member next reads ih

theorem gives_enclosedMembers {members : List (String × Json)}
    (enclosed : Enclosed (MemberText Inner) '}' members text)
    (starts : ∀ value text, Inner value text → StartsValue (encode text))
    (takes : ∀ value text, Inner value text → Takes read value text) (after : List UInt8) :
    Gives (readMembers read true (encode text ++ after)) members after := by
  cases enclosed with
  | empty areBlanks => exact gives_noMember (skipSpaces_close areBlanks rfl rfl after)
  | @elements text others member members element rest =>
    rw [encode_append_append]
    obtain ⟨inner, isInner, -, front⟩ :=
      element.front (fun _ => startsValue_memberText) (encode others ++ after)
    have ends := rest.endsNumber (endsNumber_cons (by decide)) after
    obtain ⟨last, shape, reads⟩ := gives_memberText isInner starts takes ends
    obtain ⟨bound, next⟩ := nextMember_first (front.trans shape)
    exact gives_member next reads (gives_followingMembers rest starts takes after)

end Reading

theorem IsToken.textOf {value : Json} {text : List Char} (token : IsToken value text)
    (depth : Nat) : TextOf depth value text := by
  cases depth with
  | zero => exact token
  | succ depth => exact .token token

theorem TextOf.startsValue {depth : Nat} {value : Json} {text : List Char}
    (isText : TextOf depth value text) : StartsValue (encode text) := by
  cases depth with
  | zero => exact IsToken.startsValue isText
  | succ depth =>
    cases isText with
    | token token => exact token.startsValue
    | array enclosed => exact ⟨0x5B, _, rfl, rfl, by decide⟩
    | object enclosed => exact ⟨0x7B, _, rfl, rfl, by decide⟩

/-- A value that is not nested too deep is read from each of its texts. -/
theorem TextOf.takes {depth : Nat} {value : Json} {text : List Char}
    (isText : TextOf depth value text) {limit : Nat} (notTooDeep : depth < limit) :
    Takes (readValue limit) value text := by
  -- Every array and every object takes one from the depth that is left and from the limit.
  induction depth generalizing value text limit with
  | zero => exact IsToken.takes isText limit
  | succ depth ih =>
    obtain ⟨inner, rfl⟩ := Nat.exists_eq_succ_of_ne_zero (Nat.ne_zero_of_lt notTooDeep)
    have deeper : depth < inner := Nat.lt_of_succ_lt_succ notTooDeep
    have starts (value : Json) (text : List Char) (isText : TextOf depth value text) :=
      isText.startsValue
    have takes (value : Json) (text : List Char) (isText : TextOf depth value text) :=
      ih isText deeper
    intro input after ends front
    cases isText with
    | token token => exact token.takes _ input after ends front
    | array enclosed =>
      exact gives_array (Nat.zero_lt_of_lt deeper) front
        (gives_enclosedItems enclosed starts takes after)
    | object enclosed =>
      exact gives_object (Nat.zero_lt_of_lt deeper) front
        (gives_enclosedMembers enclosed starts takes after)

/-! ### Streams -/

/-- Values one after the other, each in brackets or quotes, with blanks between them, before the
first and behind the last. None is nested too deep. -/
inductive StreamText : List Json → List Char → Prop where
  | done {blanks : List Char} (areBlanks : Blanks blanks) : StreamText [] blanks
  | next {depth : Nat} {blanks text others : List Char} {value : Json} {values : List Json}
      (areBlanks : Blanks blanks) (isText : TextOf depth value text)
      (notTooDeep : depth < nestingLimit) (delimited : isDelimited value)
      (rest : StreamText values others) :
      StreamText (value :: values) (blanks ++ (text ++ others))

/-- Values may be written one after the other with the same blanks before each. -/
theorem streamText_flatMap {values : List Json} {write : Json → List Char} {depth : Nat}
    (texts : ∀ value ∈ values, TextOf depth value (write value)) (notTooDeep : depth < nestingLimit)
    (delimited : ∀ value ∈ values, isDelimited value) {blanks : List Char}
    (areBlanks : Blanks blanks) :
    StreamText values (values.flatMap fun value => blanks ++ write value) := by
  induction values with
  | nil => exact .done nofun
  | cons value rest ih =>
    obtain ⟨isText, others⟩ := List.forall_mem_cons.mp texts
    obtain ⟨isDelimited, othersDelimited⟩ := List.forall_mem_cons.mp delimited
    rw [List.flatMap_cons, List.append_assoc]
    exact .next areBlanks isText notTooDeep isDelimited (ih others othersDelimited)

theorem IsToken.endsNumber {value : Json} {text : List Char} (token : IsToken value text)
    (delimited : isDelimited value) (after : List UInt8) :
    EndsNumber (encode text ++ after) := by
  cases token with
  | string spells => exact endsNumber_cons (by decide) _
  | null => cases delimited
  | true => cases delimited
  | false => cases delimited
  | integer numeral => cases delimited
  | double numeral => cases delimited

/-- The bracket or quote in front of a value ends a number before it. -/
theorem TextOf.endsNumber {depth : Nat} {value : Json} {text : List Char}
    (isText : TextOf depth value text) (delimited : isDelimited value)
    (after : List UInt8) : EndsNumber (encode text ++ after) := by
  cases depth with
  | zero => exact IsToken.endsNumber isText delimited after
  | succ depth =>
    cases isText with
    | token token => exact token.endsNumber delimited after
    | array enclosed => exact endsNumber_cons (by decide) _
    | object enclosed => exact endsNumber_cons (by decide) _

theorem StreamText.endsNumber {values : List Json} {text : List Char}
    (stream : StreamText values text) : EndsNumber (encode text) := by
  cases stream with
  | done areBlanks =>
    have ends := endsNumber_blanks areBlanks endsNumber_nil
    rwa [List.append_nil] at ends
  | next areBlanks isText notTooDeep delimited rest =>
    rw [Text.Utf8.encode_append, Text.Utf8.encode_append]
    exact endsNumber_blanks areBlanks (isText.endsNumber delimited _)

/-- The values of a stream are read from each of its texts. -/
theorem StreamText.readSequence_eq {values : List Json} {text : List Char}
    (stream : StreamText values text) : readSequence (encode text) = .ok values := by
  induction stream with
  | done areBlanks =>
    have front := skipSpaces_blanks areBlanks []
    rw [List.append_nil] at front
    rw [readSequence, front]
    rfl
  | @next depth blanks text others value values areBlanks isText notTooDeep delimited rest ih =>
    have starts := isText.startsValue.append (encode others)
    have bytes : encode (blanks ++ (text ++ others)) =
        encode blanks ++ (encode text ++ encode others) := by
      rw [Text.Utf8.encode_append, Text.Utf8.encode_append]
    rw [bytes]
    have front := (skipSpaces_blanks areBlanks _).trans starts.skipSpaces_eq
    obtain ⟨shorter, read⟩ := isText.takes notTooDeep _ _ rest.endsNumber front
    obtain ⟨byte, last, shape, -, -⟩ := starts
    rw [readSequence]
    split
    · next nothing =>
      rw [front, shape] at nothing
      cases nothing
    · simp only [read, delimited, Bool.true_or, if_true]
      split
      · rw [ih]
        rfl
      · next none =>
        rw [List.head?_eq_none_iff.mp none, readSequence] at ih
        cases ih
        rfl

/-- The values of a stream are parsed from each of its texts. -/
theorem StreamText.parseSequence_eq {values : List Json} {text : List Char}
    (stream : StreamText values text) :
    parseSequence (encode text) = .ok (normalItems values) := by
  rw [parseSequence, stream.readSequence_eq]

end ScanMerge.Json
