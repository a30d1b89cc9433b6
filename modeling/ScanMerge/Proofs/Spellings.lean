import ScanMerge.Proofs.ManifestPaths
import ScanMerge.Proofs.Utf8
import Mathlib.Data.List.Basic

/-!
Spellings of one path. Two paths with the same segments lead to the same place, except that the one
with a separator or a `.` behind its last name does not lead to a file.
-/

set_option autoImplicit false

namespace ScanMerge

namespace Path

/-- A path spelled by a string is shown as that string. -/
theorem display_ofString (text : String) : (ofString text).display = text := by
  rw [display, displayChars, ofString, Text.Utf8.encodeString, Text.Utf8.decodeLossy_encode,
    String.ofList_toList]

/-- The path is spelled by a string. -/
def IsText (path : Path) : Prop :=
  ∃ text, path = .ofString text

theorem isText_iff {path : Path} : path.IsText ↔ path.text?.isSome = true := by
  constructor
  · rintro ⟨text, rfl⟩
    rw [text?, ofString, Text.Utf8.encodeString, Text.Utf8.decode?_encode]
    rfl
  · intro isSome
    rw [text?, Option.isSome_map] at isSome
    obtain ⟨text, decoded⟩ := Option.isSome_iff_exists.mp isSome
    refine ⟨String.ofList text, ?_⟩
    rw [ofString, Text.Utf8.encodeString, String.toList_ofList,
      Text.Utf8.encode_of_decode? decoded]

/-- Only a path that is text is spelled by what is shown for it. -/
theorem ofString_display_iff {path : Path} : ofString path.display = path ↔ path.IsText := by
  constructor
  · intro same
    exact ⟨path.display, same.symm⟩
  · rintro ⟨text, rfl⟩
    rw [display_ofString]

/-- The part leads nowhere: it is empty or `.`. -/
def stays (part : List UInt8) : Bool :=
  part = [] || part = [dot]

theorem stays_iff {part : List UInt8} : stays part = true ↔ part = [] ∨ part = [dot] := by
  simp [stays]

def leading (parts : List (List UInt8)) : List (List UInt8) :=
  parts.filter fun part => !stays part

/-- Something stands behind the last name of the spelling: a separator, or `.`. -/
def trails (path : Path) : Bool :=
  (parts path.bytes).getLast?.any stays

/-- The parts that lead on, and an empty one behind them when the last part is none of them. -/
def tidy : List (List UInt8) → List (List UInt8)
  | [] => []
  | [part] => if stays part then [[]] else [part]
  | part :: next :: rest => if stays part then tidy (next :: rest) else part :: tidy (next :: rest)

theorem tidy_of_stays {part : List UInt8} {rest : List (List UInt8)} (still : stays part = true)
    (more : rest ≠ []) : tidy (part :: rest) = tidy rest := by
  cases rest with
  | nil => exact absurd rfl more
  | cons next rest => rw [tidy, if_pos still]

theorem tidy_of_leads {part : List UInt8} (leads : stays part = false)
    (rest : List (List UInt8)) : tidy (part :: rest) = part :: tidy rest := by
  cases rest with
  | nil => simp [tidy, leads]
  | cons next rest => simp [tidy, leads]

theorem tidy_eq (parts : List (List UInt8)) :
    tidy parts = leading parts ++ if parts.getLast?.any stays then [[]] else [] := by
  induction parts with
  | nil => rfl
  | cons part rest ih =>
    cases still : stays part with
    | false =>
      have kept : leading (part :: rest) = part :: leading rest := by simp [leading, still]
      rw [tidy_of_leads still, ih, kept]
      cases rest with
      | nil => simp [still]
      | cons next rest => rw [List.getLast?_cons_cons, List.cons_append]
    | true =>
      have dropped : leading (part :: rest) = leading rest := by simp [leading, still]
      cases rest with
      | nil => simp [tidy, still, leading]
      | cons next rest => rw [tidy_of_stays still (by simp), ih, dropped, List.getLast?_cons_cons]

theorem tidy_ne_nil {parts : List (List UInt8)} (some : parts ≠ []) : tidy parts ≠ [] := by
  induction parts with
  | nil => exact absurd rfl some
  | cons part rest ih =>
    cases still : stays part with
    | false =>
      rw [tidy_of_leads still]
      exact List.cons_ne_nil _ _
    | true =>
      by_cases last : rest = []
      · rw [last, tidy, if_pos still]
        exact List.cons_ne_nil _ _
      · rw [tidy_of_stays still last]
        exact ih last

theorem tidy_append (before : List (List UInt8)) {after : List (List UInt8)} (some : after ≠ []) :
    tidy (before ++ after) = leading before ++ tidy after := by
  induction before with
  | nil => rfl
  | cons part rest ih =>
    have more : rest ++ after ≠ [] := List.append_ne_nil_of_right_ne_nil _ some
    cases still : stays part with
    | false =>
      have kept : leading (part :: rest) = part :: leading rest := by simp [leading, still]
      rw [List.cons_append, tidy_of_leads still, ih, kept, List.cons_append]
    | true =>
      have dropped : leading (part :: rest) = leading rest := by simp [leading, still]
      rw [List.cons_append, tidy_of_stays still more, ih, dropped]

theorem tidy_tidy (parts : List (List UInt8)) : tidy (tidy parts) = tidy parts := by
  induction parts with
  | nil => rfl
  | cons part rest ih =>
    cases still : stays part with
    | false => rw [tidy_of_leads still, tidy_of_leads still, ih]
    | true =>
      by_cases last : rest = []
      · rw [last, tidy, if_pos still]
        rfl
      · rw [tidy_of_stays still last, ih]

/-! ### Segments and spelling -/

def Segment.part : Segment → List UInt8
  | .up => [dot, dot]
  | .name bytes => bytes
  | .root => []
  | .here => []

theorem map_part_filterMap (parts : List (List UInt8)) :
    (parts.filterMap Segment.ofPart?).map Segment.part = leading parts := by
  induction parts with
  | nil => rfl
  | cons part rest ih =>
    rw [List.filterMap_cons, Segment.ofPart?]
    by_cases still : part = [] ∨ part = [dot]
    · have dropped : leading (part :: rest) = leading rest := by
        simp [leading, stays_iff.mpr still]
      rw [if_pos still, dropped]
      exact ih
    · have leads : stays part = false := by
        rw [← Bool.not_eq_true, stays_iff]
        exact still
      have kept : leading (part :: rest) = part :: leading rest := by simp [leading, leads]
      rw [if_neg still, kept, ← ih]
      by_cases up : part = [dot, dot]
      · rw [if_pos up, up]
        rfl
      · rw [if_neg up]
        rfl

def Segment.isStep : Segment → Bool
  | .root => false
  | .here => false
  | .up => true
  | .name _ => true

theorem filter_isStep_filterMap (parts : List (List UInt8)) :
    (parts.filterMap Segment.ofPart?).filter Segment.isStep =
      parts.filterMap Segment.ofPart? := by
  rw [List.filter_eq_self]
  intro segment member
  obtain ⟨part, -, read⟩ := List.mem_filterMap.mp member
  rw [Segment.ofPart?] at read
  split at read
  · cases read
  · split at read <;> cases read <;> rfl

theorem filter_isStep_segments (path : Path) :
    path.segments.filter Segment.isStep = path.steps := by
  rw [segments, steps]
  by_cases absolute : path.isAbsolute
  · rw [if_pos absolute, List.filter_cons, filter_isStep_filterMap]
    rfl
  · rw [if_neg absolute]
    cases parts path.bytes with
    | nil => rfl
    | cons first others =>
      by_cases here : first = [dot]
      · have dropped : (first :: others).filterMap Segment.ofPart? =
            others.filterMap Segment.ofPart? := by
          rw [here]
          rfl
        simp only [here, if_true]
        rw [← here, dropped, List.filter_cons, filter_isStep_filterMap]
        rfl
      · simp only [here, if_false]
        exact filter_isStep_filterMap (first :: others)

section Same

variable {left right : Path} (same : left.same right = true)

include same

theorem isAbsolute_of_same : left.isAbsolute = right.isAbsolute := by
  have segments := same_iff.mp same
  rw [Bool.eq_iff_iff]
  constructor
  · intro absolute
    rw [segments_of_absolute absolute] at segments
    exact isAbsolute_of_segments segments.symm
  · intro absolute
    rw [segments_of_absolute absolute] at segments
    exact isAbsolute_of_segments segments

theorem leading_of_same : leading (parts left.bytes) = leading (parts right.bytes) := by
  have steps := congrArg (List.filter Segment.isStep) (same_iff.mp same)
  rw [filter_isStep_segments, filter_isStep_segments] at steps
  rw [← map_part_filterMap, ← map_part_filterMap]
  exact congrArg (List.map Segment.part) steps

end Same

/-- Only the empty path is relative and without segments. -/
theorem bytes_eq_nil_iff {path : Path} :
    path.bytes = [] ↔ path.isAbsolute = false ∧ path.segments = [] := by
  obtain ⟨bytes⟩ := path
  cases bytes with
  | nil => exact ⟨fun _ => ⟨rfl, rfl⟩, fun _ => rfl⟩
  | cons byte rest =>
    refine ⟨fun none => (by cases none), ?_⟩
    rintro ⟨relative, none⟩
    have named : byte ≠ separator := by
      intro first
      rw [isAbsolute, first] at relative
      cases relative
    rw [segments, relative] at none
    -- The first part is not empty, so it is a segment.
    have part : ∃ first others, parts (byte :: rest) = (byte :: first) :: others := by
      cases split : parts rest with
      | nil => exact absurd split (parts_ne_nil rest)
      | cons first others => exact ⟨first, others, by rw [parts, if_neg named, split]⟩
    obtain ⟨first, others, split⟩ := part
    simp only [split, Bool.false_eq_true, if_false] at none
    by_cases here : byte :: first = [dot]
    · rw [if_pos here] at none
      cases none
    · rw [if_neg here, List.filterMap_cons, Segment.ofPart?, if_neg (by simp [here])] at none
      by_cases up : byte :: first = [dot, dot]
      · rw [if_pos up] at none
        cases none
      · rw [if_neg up] at none
        cases none

theorem mem_iff_mem_part {byte : UInt8} (other : byte ≠ separator) (bytes : List UInt8) :
    byte ∈ bytes ↔ ∃ part ∈ parts bytes, byte ∈ part := by
  induction bytes with
  | nil => simp [parts]
  | cons first rest ih =>
    by_cases separates : first = separator
    · have different : byte ≠ first := separates ▸ other
      rw [parts, if_pos separates, List.mem_cons, ih]
      simp [different]
    · cases split : parts rest with
      | nil => exact absurd split (parts_ne_nil rest)
      | cons part others =>
        rw [split] at ih
        rw [parts, if_neg separates, split, List.mem_cons, ih]
        simp [or_assoc]

/-- A byte other than `.` and the separator stands in a part that leads on. -/
theorem mem_iff_mem_leading {byte : UInt8} (other : byte ≠ separator) (notDot : byte ≠ dot)
    (bytes : List UInt8) : byte ∈ bytes ↔ ∃ part ∈ leading (parts bytes), byte ∈ part := by
  rw [mem_iff_mem_part other]
  constructor
  · rintro ⟨part, member, inside⟩
    refine ⟨part, List.mem_filter.mpr ⟨member, ?_⟩, inside⟩
    rw [Bool.not_eq_true', ← Bool.not_eq_true, stays_iff]
    rintro (rfl | rfl)
    · cases inside
    · exact notDot (List.mem_singleton.mp inside)
  · rintro ⟨part, member, inside⟩
    exact ⟨part, (List.mem_filter.mp member).1, inside⟩

/-- Reading a path from a base puts the parts of the base before those of the path, but for an empty
one at their end. -/
theorem exists_parts_join (base : Path) : ∃ before : List (List UInt8),
    (∀ path : Path, path.isAbsolute = false →
      parts (base.join path).bytes = before ++ parts path.bytes) ∧
    (parts base.bytes = before ∨ parts base.bytes = before ++ [[]]) := by
  obtain ⟨bytes⟩ := base
  by_cases empty : bytes = []
  · refine ⟨[], fun path relative => ?_, .inr (by rw [empty]; rfl)⟩
    rw [join, if_neg (by simp [relative]), if_pos (.inl empty), empty]
    rfl
  · by_cases ends : bytes.getLast? = some separator
    · obtain ⟨before, rfl⟩ := List.getLast?_eq_some_iff.mp ends
      refine ⟨parts before, fun path relative => ?_, .inr (parts_append before [])⟩
      rw [join, if_neg (by simp [relative]), if_pos (.inr ends), List.append_assoc,
        List.singleton_append]
      exact parts_append before path.bytes
    · refine ⟨parts bytes, fun path relative => ?_, .inl rfl⟩
      rw [join, if_neg (by simp [relative]), if_neg (by simp [empty, ends])]
      exact parts_append bytes path.bytes

theorem trails_join (base path : Path) : (base.join path).trails = path.trails := by
  cases absolute : path.isAbsolute with
  | true => rw [join_absolute absolute]
  | false =>
    obtain ⟨before, joined, -⟩ := exists_parts_join base
    have last : (before ++ parts path.bytes).getLast? = (parts path.bytes).getLast? :=
      List.getLast?_append_of_ne_nil before (parts_ne_nil _)
    rw [trails, joined path absolute, last, trails]

end Path

namespace Disk

/-- Parts that lead nowhere do not matter, except behind the last one that leads on. -/
theorem follow_tidy (disk : Disk) (links : Nat) (here : Location) (parts : List Name) :
    disk.follow links here parts = disk.follow links here (Path.tidy parts) := by
  induction links using Nat.strongRecOn generalizing here parts with
  | ind links followLess =>
    induction parts generalizing here with
    | nil => rfl
    | cons part rest ih =>
      cases still : Path.stays part with
      | true =>
        have stays := Path.stays_iff.mp still
        by_cases last : rest = []
        · rw [last, Path.tidy, if_pos still, follow_of_stays stays, follow_of_stays (.inl rfl)]
        · rw [Path.tidy_of_stays still last, follow_of_stays stays, ih]
      | false =>
        have leads : ¬ (part = [] ∨ part = [Path.dot]) := by
          rw [← Path.stays_iff, still]
          exact Bool.false_ne_true
        have none : rest = [] ↔ Path.tidy rest = [] :=
          ⟨fun none => by rw [none]; rfl, fun none =>
            Classical.byContradiction fun some => Path.tidy_ne_nil some none⟩
        rw [Path.tidy_of_leads still]
        by_cases up : part = [Path.dot, Path.dot]
        · rw [follow_of_up leads up, follow_of_up leads up, ih]
        by_cases long : nameLimit < part.length
        · rw [follow_of_long leads up long, follow_of_long leads up long]
        have name : IsName part := ⟨leads, up, long⟩
        cases found : disk.at? (here ++ [part]) with
        | none => rw [follow_missing name found, follow_missing name found]
        | some entry =>
          cases entry with
          | folder inner => rw [follow_folder name found, follow_folder name found, ih]
          | file content => simp only [follow_file name found, none]
          | link target =>
            cases links with
            | zero => rw [follow_lastLink name found, follow_lastLink name found]
            | succ left =>
              -- Only a link starts anew, with fewer links to follow.
              have less := Nat.lt_succ_self left
              rw [follow_link name found, follow_link name found,
                followLess left less _ (Path.parts target.bytes ++ rest),
                followLess left less _ (Path.parts target.bytes ++ Path.tidy rest)]
              by_cases last : rest = []
              · rw [last]
                rfl
              · rw [Path.tidy_append _ last, Path.tidy_append _ (Path.tidy_ne_nil last),
                  Path.tidy_tidy]

/-- A separator at the end makes a difference only behind a file. -/
theorem follow_snoc_empty (disk : Disk) (links : Nat) (here : Location) (parts : List Name) :
    disk.follow links here (parts ++ [[]]) = disk.follow links here parts ∨
      (disk.follow links here (parts ++ [[]]) = .error .notDirectory ∧
        ∃ arrival content, disk.follow links here parts = .ok arrival ∧
          disk.at? arrival.location = some (.file content)) := by
  induction links, here, parts using followInduction disk with
  | nil links here => exact .inl (follow_of_stays (.inl rfl))
  | stays links here part rest stays ih =>
    rwa [List.cons_append, follow_of_stays stays, follow_of_stays stays]
  | up links here part rest leads up ih =>
    rwa [List.cons_append, follow_of_up leads up, follow_of_up leads up]
  | long links here part rest leads down long =>
    exact .inl (by rw [List.cons_append, follow_of_long leads down long,
      follow_of_long leads down long])
  | missing links here part rest name missing =>
    exact .inl (by rw [List.cons_append, follow_missing name missing,
      follow_missing name missing])
  | folder links here part rest name inner found ih =>
    rwa [List.cons_append, follow_folder name found, follow_folder name found]
  | file links here part rest name content found =>
    rw [List.cons_append, follow_file name found, follow_file name found]
    by_cases last : rest = []
    · subst last
      exact .inr ⟨rfl, _, content, rfl, found⟩
    · exact .inl (by simp [last])
  | lastLink here part rest name target found =>
    exact .inl (by rw [List.cons_append, follow_lastLink name found, follow_lastLink name found])
  | link left here part rest name target found ih =>
    rw [List.cons_append, follow_link name found, follow_link name found, ← List.append_assoc]
    rcases ih with same | ⟨fails, arrival, content, arrives, file⟩
    · exact .inl (by rw [same])
    · refine .inr ⟨by rw [fails]; rfl, arrival.afterLink, content, ?_, file⟩
      rw [arrives]
      rfl

end Disk

end ScanMerge
