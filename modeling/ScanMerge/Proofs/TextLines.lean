import ScanMerge.Text.Lines
import Mathlib.Data.List.Basic

/-!
The lines of a text. A text is a line without a line feed, or such a line with a line feed and
another text behind it; what holds of lines is proved along this.
-/

set_option autoImplicit false

namespace ScanMerge.Text

/-- The text has the line as the one with the number, the first line having number 0. -/
inductive HasLine : List Char → Nat → List Char → Prop where
  /-- What no line feed follows is a line unless it is empty. -/
  | last {line : List Char} (nonempty : line ≠ []) (whole : '\n' ∉ line) : HasLine line 0 line
  | first {line rest : List Char} (whole : '\n' ∉ line) : HasLine (line ++ '\n' :: rest) 0 line
  | later {front rest line : List Char} {number : Nat} (whole : '\n' ∉ front)
      (behind : HasLine rest number line) : HasLine (front ++ '\n' :: rest) (number + 1) line

/-- A text is one line without a line feed, or such a line with a line feed and a text behind it. -/
theorem lines_induction {motive : List Char → Prop}
    (last : ∀ line, '\n' ∉ line → motive line)
    (more : ∀ line rest, '\n' ∉ line → motive rest → motive (line ++ '\n' :: rest))
    (text : List Char) : motive text := by
  by_cases feeds : '\n' ∈ text
  · obtain ⟨line, rest, same, whole⟩ := List.eq_append_cons_of_mem feeds
    have shorter : rest.length < text.length := by
      rw [same, List.length_append, List.length_cons]
      omega
    exact same ▸ more line rest whole (lines_induction last more rest)
  · exact last text feeds
termination_by text.length

theorem splitAtLineFeeds_ne_nil (text : List Char) : splitAtLineFeeds text ≠ [] := by
  fun_induction splitAtLineFeeds text <;> exact List.cons_ne_nil _ _

theorem splitAtLineFeeds_of_whole {line : List Char} (whole : '\n' ∉ line) :
    splitAtLineFeeds line = [line] := by
  induction line with
  | nil => rfl
  | cons c rest ih =>
    rw [List.mem_cons, not_or] at whole
    rw [splitAtLineFeeds, if_neg (Ne.symm whole.1), ih whole.2]

theorem splitAtLineFeeds_append {line : List Char} (whole : '\n' ∉ line) (rest : List Char) :
    splitAtLineFeeds (line ++ '\n' :: rest) = line :: splitAtLineFeeds rest := by
  induction line with
  | nil => rw [List.nil_append, splitAtLineFeeds, if_pos rfl]
  | cons c front ih =>
    rw [List.mem_cons, not_or] at whole
    rw [List.cons_append, splitAtLineFeeds, if_neg (Ne.symm whole.1), ih whole.2]

theorem lines_of_whole {line : List Char} (whole : '\n' ∉ line) :
    lines line = if line = [] then [] else [line] := by
  rw [lines, splitAtLineFeeds_of_whole whole, linesOfParts]

/-- A line feed ends a line. -/
theorem lines_append {line : List Char} (whole : '\n' ∉ line) (rest : List Char) :
    lines (line ++ '\n' :: rest) = dropCarriageReturn line :: lines rest := by
  rw [lines, splitAtLineFeeds_append whole, lines]
  obtain ⟨first, others, same⟩ := List.exists_cons_of_ne_nil (splitAtLineFeeds_ne_nil rest)
  rw [same, linesOfParts]

theorem dropCarriageReturn_of_plain {line : List Char} (plain : '\r' ∉ line) :
    dropCarriageReturn line = line :=
  if_neg fun last => plain (List.mem_of_getLast? last)

theorem dropCarriageReturn_append (line : List Char) :
    dropCarriageReturn (line ++ ['\r']) = line := by
  rw [dropCarriageReturn, if_pos List.getLast?_concat, List.dropLast_concat]

/-- No carriage return stands in a line nor behind it. -/
theorem plain_append_iff {line rest : List Char} :
    '\r' ∉ line ++ '\n' :: rest ↔ '\r' ∉ line ∧ '\r' ∉ rest := by
  rw [List.mem_append, List.mem_cons, not_or, not_or]
  exact and_congr_right fun _ => and_iff_right (by decide)

theorem HasLine.getElem?_lines {text line : List Char} {number : Nat}
    (has : HasLine text number line) (plain : '\r' ∉ text) : (lines text)[number]? = some line := by
  induction has with
  | last nonempty whole => rw [lines_of_whole whole, if_neg nonempty, List.getElem?_cons_zero]
  | first whole =>
    have plainLine := (plain_append_iff.mp plain).1
    rw [lines_append whole, dropCarriageReturn_of_plain plainLine, List.getElem?_cons_zero]
  | later whole _ ih =>
    rw [lines_append whole, List.getElem?_cons_succ, ih (plain_append_iff.mp plain).2]

theorem hasLine_of_getElem?_lines {text line : List Char} {number : Nat} (plain : '\r' ∉ text)
    (found : (lines text)[number]? = some line) : HasLine text number line := by
  induction text using lines_induction generalizing number with
  | last front whole =>
    rw [lines_of_whole whole] at found
    split at found
    · cases found
    · next nonempty =>
      cases number with
      | zero =>
        rw [List.getElem?_cons_zero] at found
        exact Option.some.inj found ▸ .last nonempty whole
      | succ number => cases found
  | more front rest whole ih =>
    obtain ⟨plainLine, plainRest⟩ := plain_append_iff.mp plain
    rw [lines_append whole, dropCarriageReturn_of_plain plainLine] at found
    cases number with
    | zero =>
      rw [List.getElem?_cons_zero] at found
      exact Option.some.inj found ▸ .first whole
    | succ number =>
      rw [List.getElem?_cons_succ] at found
      exact .later whole (ih plainRest found)

/-- The first lines of a text without carriage returns. -/
theorem mem_take_lines_iff {text line : List Char} {count : Nat} (plain : '\r' ∉ text) :
    line ∈ (lines text).take count ↔ ∃ number < count, HasLine text number line := by
  rw [List.mem_iff_getElem?]
  constructor
  · rintro ⟨number, found⟩
    rw [List.getElem?_take] at found
    split at found
    · next early => exact ⟨number, early, hasLine_of_getElem?_lines plain found⟩
    · cases found
  · rintro ⟨number, early, has⟩
    exact ⟨number, (List.getElem?_take_of_lt early).trans (has.getElem?_lines plain)⟩

/-- The first lines stay the same when a text is put behind them. -/
theorem take_lines_append {text : List Char} {number : Nat} (enough : number ≤ text.count '\n')
    (behind : List Char) : (lines (text ++ behind)).take number = (lines text).take number := by
  induction text using lines_induction generalizing number with
  | last line whole =>
    rw [List.count_eq_zero_of_not_mem whole, Nat.le_zero] at enough
    rw [enough, List.take_zero, List.take_zero]
  | more line rest whole ih =>
    rw [List.append_assoc, List.cons_append, lines_append whole, lines_append whole]
    cases number with
    | zero => rfl
    | succ number =>
      have fewer : number ≤ rest.count '\n' := by
        rw [List.count_append, List.count_eq_zero_of_not_mem whole, List.count_cons_self] at enough
        omega
      rw [List.take_succ_cons, List.take_succ_cons, ih fewer]

end ScanMerge.Text
