import ScanMerge.Report.Markdown
import Mathlib.Algebra.GroupWithZero.Nat
import Mathlib.Algebra.Order.BigOperators.Group.List
import Mathlib.Algebra.Order.Group.Nat

/-!
Rows of tables as they are read: a line is cut into cells at the vertical lines that no backslash
takes. A row is one line with a cell for each of its texts exactly when no text holds a line feed or
a vertical line that cuts.
-/

set_option autoImplicit false

namespace ScanMerge.Markdown

/-! ### Cells -/

/-- A text cut at its vertical lines. A backslash takes the character behind it, so a vertical line
behind one cuts nothing. -/
def cutAtBars : List Char → List (List Char)
  | [] => [[]]
  | '|' :: rest => [] :: cutAtBars rest
  | '\\' :: c :: rest => (cutAtBars rest).modifyHead (['\\', c] ++ ·)
  | c :: rest => (cutAtBars rest).modifyHead ([c] ++ ·)

/-- The number of vertical lines in a text that cut it. -/
def bars (text : List Char) : Nat :=
  (cutAtBars text).length - 1

/-- The cells of a line of a table: what stands between two vertical lines. -/
def cells (line : List Char) : List (List Char) :=
  (cutAtBars line).tail.dropLast

/-- The text is one line with so many cells. -/
def IsRow (columns : Nat) (text : String) : Prop :=
  ∃ line, text.toList = line ++ ['\n'] ∧ '\n' ∉ line ∧ (cells line).length = columns

/-- The text of a cell in its line, the vertical lines around it aside. -/
def padded (text : String) : List Char :=
  ' ' :: (text.toList ++ [' '])

/-- The text is one line whose cells hold the given texts. -/
def ShowsCells (texts : List String) (text : String) : Prop :=
  ∃ line, text.toList = line ++ ['\n'] ∧ '\n' ∉ line ∧
    cells line = texts.map padded

theorem exists_cons_cutAtBars (text : List Char) :
    ∃ first others, cutAtBars text = first :: others := by
  fun_induction cutAtBars text with
  | case1 | case2 => exact ⟨_, _, rfl⟩
  | case3 c rest ih =>
    obtain ⟨first, others, cut⟩ := ih
    exact ⟨_, _, congrArg (List.modifyHead _) cut⟩
  | case4 c rest notBar notBackslash ih =>
    obtain ⟨first, others, cut⟩ := ih
    exact ⟨_, _, congrArg (List.modifyHead _) cut⟩

theorem length_cutAtBars (text : List Char) : (cutAtBars text).length = bars text + 1 := by
  obtain ⟨first, others, cut⟩ := exists_cons_cutAtBars text
  rw [bars, cut]
  rfl

/-- A character that neither cuts nor takes the one behind it. -/
structure IsInert (c : Char) : Prop where
  notBar : c ≠ '|'
  notBackslash : c ≠ '\\'

theorem cutAtBars_cons {c : Char} (inert : IsInert c) (rest : List Char) :
    cutAtBars (c :: rest) = (cutAtBars rest).modifyHead ([c] ++ ·) := by
  rw [cutAtBars]
  · exact inert.notBar
  · exact fun _ _ starts => absurd starts inert.notBackslash

theorem bars_bar (rest : List Char) : bars ('|' :: rest) = bars rest + 1 := by
  rw [bars, cutAtBars, List.length_cons, length_cutAtBars]
  rfl

theorem bars_escaped (c : Char) (rest : List Char) : bars ('\\' :: c :: rest) = bars rest := by
  rw [bars, cutAtBars, List.length_modifyHead, length_cutAtBars]
  rfl

theorem bars_cons {c : Char} (inert : IsInert c) (rest : List Char) :
    bars (c :: rest) = bars rest := by
  rw [bars, cutAtBars_cons inert, List.length_modifyHead, length_cutAtBars]
  rfl

/-- A text is read character by character, a backslash together with the character behind it. -/
theorem bars_induction {motive : List Char → Prop} (nil : motive [])
    (bar : ∀ rest, motive rest → motive ('|' :: rest)) (lone : motive ['\\'])
    (escaped : ∀ c rest, motive rest → motive ('\\' :: c :: rest))
    (inert : ∀ c rest, IsInert c → motive rest → motive (c :: rest)) (text : List Char) :
    motive text := by
  fun_induction cutAtBars text with
  | case1 => exact nil
  | case2 rest ih => exact bar rest ih
  | case3 c rest ih => exact escaped c rest ih
  | case4 c rest notBar notEscaping ih =>
    by_cases backslash : c = '\\'
    · cases rest with
      | nil => exact backslash ▸ lone
      | cons next rest => exact (notEscaping next rest backslash rfl).elim
    · exact inert c rest ⟨notBar, backslash⟩ ih

/-- The vertical lines of two texts add up when an inert character stands between them. -/
theorem bars_append_cons {c : Char} (inert : IsInert c) (text rest : List Char) :
    bars (text ++ c :: rest) = bars text + bars rest := by
  have none : bars [] = 0 := rfl
  induction text using bars_induction with
  | nil => rw [List.nil_append, bars_cons inert, none, Nat.zero_add]
  | bar text ih => rw [List.cons_append, bars_bar, bars_bar, ih, Nat.add_right_comm]
  | lone =>
    have lone : bars ['\\'] = 0 := rfl
    rw [List.singleton_append, bars_escaped, lone, Nat.zero_add]
  | escaped d text ih => rw [List.cons_append, List.cons_append, bars_escaped, bars_escaped, ih]
  | inert d text dInert ih => rw [List.cons_append, bars_cons dInert, bars_cons dInert, ih]

theorem bars_append_singleton {c : Char} (inert : IsInert c) (text : List Char) :
    bars (text ++ [c]) = bars text :=
  bars_append_cons inert text []

theorem bars_of_not_mem {text : List Char} (absent : '|' ∉ text) : bars text = 0 := by
  induction text using bars_induction with
  | nil | lone => rfl
  | bar text ih => exact absurd List.mem_cons_self absent
  | escaped c text ih =>
    rw [bars_escaped]
    exact ih fun member => absent (List.mem_cons_of_mem _ (List.mem_cons_of_mem _ member))
  | inert c text inert ih =>
    rw [bars_cons inert]
    exact ih fun member => absent (List.mem_cons_of_mem _ member)

/-- A vertical line behind an inert character cuts. -/
theorem cutAtBars_append {c : Char} (inert : IsInert c) (text rest : List Char) :
    cutAtBars (text ++ c :: '|' :: rest) = cutAtBars (text ++ [c]) ++ cutAtBars rest := by
  induction text using bars_induction with
  | nil =>
    rw [List.nil_append, List.nil_append, cutAtBars_cons inert, cutAtBars_cons inert]
    rfl
  | bar text ih =>
    rw [List.cons_append, List.cons_append, cutAtBars, cutAtBars, ih]
    rfl
  | lone => rfl
  | escaped d text ih =>
    obtain ⟨first, others, cut⟩ := exists_cons_cutAtBars (text ++ [c])
    simp only [List.cons_append]
    rw [cutAtBars, cutAtBars, ih, cut]
    rfl
  | inert d text dInert ih =>
    obtain ⟨first, others, cut⟩ := exists_cons_cutAtBars (text ++ [c])
    simp only [List.cons_append]
    rw [cutAtBars_cons dInert, cutAtBars_cons dInert, ih, cut]
    rfl

/-- A text that is not cut is its only piece. -/
theorem cutAtBars_of_bars {text : List Char} (whole : bars text = 0) : cutAtBars text = [text] := by
  induction text using bars_induction with
  | nil | lone => rfl
  | bar text ih =>
    rw [bars_bar] at whole
    cases whole
  | escaped c text ih =>
    rw [bars_escaped] at whole
    rw [cutAtBars, ih whole]
    rfl
  | inert c text inert ih =>
    rw [bars_cons inert] at whole
    rw [cutAtBars_cons inert, ih whole]
    rfl

/-! ### Lines of tables -/

/-- A text that stays in its cell: it ends no line, and no vertical line cuts it. -/
structure FitsCell (text : String) : Prop where
  oneLine : '\n' ∉ text.toList
  whole : bars text.toList = 0

theorem bars_padded (text : String) : bars (padded text) = bars text.toList := by
  have blank : IsInert ' ' := ⟨by decide, by decide⟩
  rw [padded, bars_cons blank, bars_append_singleton blank]

/-- The line of a row, without the line feed at its end. -/
def rowLine (texts : List String) : List Char :=
  '|' :: texts.flatMap fun text => padded text ++ ['|']

theorem toList_rowText {texts : List String} (occur : texts ≠ []) :
    (rowText texts).toList = rowLine texts ++ ['\n'] := by
  have joined (first : String) (others : List String) :
      ' ' :: (" | ".toList.intercalate ((first :: others).map String.toList) ++ [' ', '|']) =
        (first :: others).flatMap fun text => padded text ++ ['|'] := by
    induction others generalizing first with
    | nil => simp [padded]
    | cons next rest ih =>
      rw [List.flatMap_cons, ← ih next]
      simp [padded, List.intercalate_cons_cons]
  obtain ⟨first, others, rfl⟩ := List.exists_cons_of_ne_nil occur
  rw [rowLine, ← joined]
  simp [rowText]

theorem cutAtBars_flatMap (texts : List String) :
    cutAtBars (texts.flatMap fun text => padded text ++ ['|']) =
      texts.flatMap (fun text => cutAtBars (padded text)) ++ [[]] := by
  have blank : IsInert ' ' := ⟨by decide, by decide⟩
  induction texts with
  | nil => rfl
  | cons text texts ih =>
    have front : padded text ++ ['|'] ++ (texts.flatMap fun text => padded text ++ ['|']) =
        (' ' :: text.toList) ++ ' ' :: '|' :: texts.flatMap fun text => padded text ++ ['|'] := by
      simp [padded]
    rw [List.flatMap_cons, front, cutAtBars_append blank, ih, List.flatMap_cons, List.append_assoc]
    rfl

theorem cells_rowLine (texts : List String) :
    cells (rowLine texts) = texts.flatMap fun text => cutAtBars (padded text) := by
  rw [cells, rowLine, cutAtBars, cutAtBars_flatMap, List.tail_cons, List.dropLast_concat]

theorem length_cells_rowLine (texts : List String) :
    (cells (rowLine texts)).length = texts.length + (texts.map (bars ·.toList)).sum := by
  rw [cells_rowLine, List.length_flatMap]
  induction texts with
  | nil => rfl
  | cons text texts ih =>
    rw [List.map_cons, List.sum_cons, ih, length_cutAtBars, bars_padded, List.length_cons,
      List.map_cons, List.sum_cons]
    omega

theorem lineFeed_mem_rowLine {texts : List String} :
    '\n' ∈ rowLine texts ↔ ∃ text ∈ texts, '\n' ∈ text.toList := by
  simp [rowLine, padded]

/-- A row is one line with a cell for each of its texts exactly when each of them fits its cell. -/
theorem isRow_rowText_iff {texts : List String} (occur : texts ≠ []) :
    IsRow texts.length (rowText texts) ↔ ∀ text ∈ texts, FitsCell text := by
  have counted : (cells (rowLine texts)).length = texts.length ↔
      ∀ text ∈ texts, bars text.toList = 0 := by
    rw [length_cells_rowLine, Nat.add_eq_left, List.sum_eq_zero_iff, List.forall_mem_map]
  constructor
  · rintro ⟨line, ends, oneLine, columns⟩ text member
    rw [toList_rowText occur] at ends
    obtain rfl := List.append_cancel_right ends
    refine ⟨fun feed => oneLine ?_, counted.mp columns text member⟩
    exact lineFeed_mem_rowLine.mpr ⟨text, member, feed⟩
  · intro fit
    refine ⟨_, toList_rowText occur, ?_, counted.mpr fun text member => (fit text member).whole⟩
    rw [lineFeed_mem_rowLine]
    rintro ⟨text, member, feed⟩
    exact (fit text member).oneLine feed

/-- A row whose texts fit shows them, each in its cell. -/
theorem showsCells_rowText {texts : List String} (occur : texts ≠ [])
    (fit : ∀ text ∈ texts, FitsCell text) : ShowsCells texts (rowText texts) := by
  obtain ⟨line, ends, oneLine, -⟩ := (isRow_rowText_iff occur).mpr fit
  refine ⟨line, ends, oneLine, ?_⟩
  rw [toList_rowText occur] at ends
  obtain rfl := List.append_cancel_right ends
  rw [cells_rowLine, List.map_eq_flatMap]
  apply List.flatMap_congr
  intro text member
  have whole := (fit text member).whole
  exact cutAtBars_of_bars (bars_padded text ▸ whole)

/-- The line below the head of a table has a cell for each column as well. -/
theorem isRow_alignmentText (columns : List Column) :
    IsRow columns.length (alignmentText columns) := by
  have cut : cutAtBars (columns.flatMap fun column => column.alignment.mark.toList ++ ['|']) =
      columns.map (fun column => column.alignment.mark.toList) ++ [[]] := by
    induction columns with
    | nil => rfl
    | cons column columns ih =>
      have mark (rest : List Char) : cutAtBars (column.alignment.mark.toList ++ '|' :: rest) =
          column.alignment.mark.toList :: cutAtBars rest := by
        cases column.alignment <;> rfl
      rw [List.flatMap_cons, List.append_assoc, List.singleton_append, mark, ih]
      rfl
  refine ⟨'|' :: columns.flatMap fun column => column.alignment.mark.toList ++ ['|'], ?_, ?_, ?_⟩
  · simp [alignmentText, List.flatMap_map]
  · have noFeed (alignment : Alignment) : '\n' ∉ alignment.mark.toList := by
      cases alignment <;> decide
    simp [noFeed]
  · rw [cells, cutAtBars, cut, List.tail_cons, List.dropLast_concat, List.length_map]

end ScanMerge.Markdown
