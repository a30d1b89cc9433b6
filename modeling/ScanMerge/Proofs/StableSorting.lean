import ScanMerge.Statistics
import Mathlib.Data.Prod.Lex
import Mathlib.Order.WithBot

/-!
Stable sorting. What is sorted by a key has the same items, ascends in the key, and keeps the order
of items with equal keys, so that sorting by a part of the key before changes nothing.
-/

set_option autoImplicit false

namespace ScanMerge

/-! ### Sorting by a key -/

/-- The sorted list has the items in the order of their keys, and those with equal keys in the order
that they had. -/
structure SortedBy {α κ : Type} [LinearOrder κ] (key : α → κ) (items sorted : List α) : Prop where
  perm : sorted.Perm items
  ascending : sorted.Pairwise fun earlier later => key earlier ≤ key later
  ties : ∀ value, (sorted.filter fun item => key item = value) =
    items.filter fun item => key item = value

namespace SortedBy

variable {α κ μ : Type} [LinearOrder κ] [LinearOrder μ] {key : α → κ} {items sorted : List α}

theorem filter_filter_key (project : κ → μ) (value : κ) (items : List α) :
    ((items.filter fun item => project (key item) = project value).filter
        fun item => key item = value) =
      items.filter fun item => key item = value := by
  rw [List.filter_filter]
  apply List.filter_congr
  intro item _
  by_cases same : key item = value
  · simp [same]
  · simp [same]

/-- Sorting by a part of the key before makes no difference. -/
theorem after (project : κ → μ) {middle : List α}
    (first : SortedBy (fun item => project (key item)) items middle)
    (second : SortedBy key middle sorted) : SortedBy key items sorted := by
  refine ⟨second.perm.trans first.perm, second.ascending, fun value => ?_⟩
  calc
    (sorted.filter fun item => key item = value)
    _ = middle.filter fun item => key item = value := second.ties value
    _ = (middle.filter fun item => project (key item) = project value).filter
          fun item => key item = value := (filter_filter_key project value middle).symm
    _ = (items.filter fun item => project (key item) = project value).filter
          fun item => key item = value := by rw [first.ties (project value)]
    _ = items.filter fun item => key item = value := filter_filter_key project value items

/-- Items with equal keys are related as they were before. -/
theorem pairwise (sorts : SortedBy key items sorted) {related : α → α → Prop}
    (before : items.Pairwise related) :
    sorted.Pairwise fun earlier later =>
      key earlier < key later ∨ (key earlier = key later ∧ related earlier later) := by
  rw [List.pairwise_iff_forall_sublist]
  intro earlier later inside
  have ordered := List.pairwise_iff_forall_sublist.mp sorts.ascending inside
  rcases lt_or_eq_of_le ordered with less | same
  · exact .inl less
  · refine .inr ⟨same, ?_⟩
    have tied := inside.filter fun item => key item = key later
    rw [sorts.ties, List.filter_cons_of_pos (by simpa using same),
      List.filter_cons_of_pos (by simp), List.filter_nil] at tied
    exact List.pairwise_iff_forall_sublist.mp before (tied.trans List.filter_sublist)

/-- What comes first is the first item that has the least key. -/
theorem exists_head {first : α} {rest : List α} (sorts : SortedBy key items (first :: rest)) :
    ∃ before behind, items = before ++ first :: behind ∧
      (∀ item ∈ before, key first < key item) ∧ ∀ item ∈ behind, key first ≤ key item := by
  have least : ∀ item ∈ items, key first ≤ key item := by
    intro item member
    rcases List.mem_cons.mp (sorts.perm.mem_iff.mpr member) with rfl | later
    · exact le_refl _
    · exact List.rel_of_pairwise_cons sorts.ascending later
  have tied := sorts.ties (key first)
  rw [List.filter_cons_of_pos (by simp)] at tied
  obtain ⟨before, behind, rfl, others, -, -⟩ := List.filter_eq_cons_iff.mp tied.symm
  refine ⟨before, behind, rfl, ?_, ?_⟩
  · intro item member
    have different : key item ≠ key first := by simpa using others item member
    exact lt_of_le_of_ne (least item (List.mem_append_left _ member)) different.symm
  · intro item member
    exact least item (List.mem_append_right _ (List.mem_cons_of_mem _ member))

end SortedBy

namespace Statistics

section SortBy

variable {α κ : Type} [LinearOrder κ] {key : α → κ} {compare : α → α → Ordering}
  (agrees : ∀ left right, compare left right ≠ .gt ↔ key left ≤ key right)

include agrees

theorem sortedBy_sortBy (items : List α) : SortedBy key items (sortBy compare items) := by
  have notAfter : ∀ left right, (compare left right != .gt) = true ↔ key left ≤ key right := by
    intro left right
    rw [bne_iff_ne, agrees]
  have transitive : ∀ first second third, (compare first second != .gt) = true →
      (compare second third != .gt) = true → (compare first third != .gt) = true := by
    intro first second third
    simp only [notAfter]
    exact le_trans
  have total : ∀ first second,
      ((compare first second != .gt) || (compare second first != .gt)) = true := by
    intro first second
    rw [Bool.or_eq_true, notAfter, notAfter]
    exact le_total _ _
  refine ⟨List.mergeSort_perm _ _, ?_, fun value => ?_⟩
  · exact (List.pairwise_mergeSort transitive total items).imp fun {earlier later} =>
      (notAfter earlier later).mp
  · apply filter_mergeSort transitive total
    intro first second firstKey secondKey
    rw [decide_eq_true_eq] at firstKey secondKey
    rw [notAfter, firstKey, secondKey]

theorem sortBy_of_ascending {items : List α}
    (ascending : items.Pairwise fun earlier later => key earlier ≤ key later) :
    sortBy compare items = items := by
  apply List.mergeSort_of_pairwise
  refine ascending.imp fun {earlier later} ordered => ?_
  rwa [bne_iff_ne, agrees]

end SortBy

end Statistics

/-! ### Findings by location and by severity -/

/-- The numbers of a range, compared from the first one on. -/
def TextRange.position (range : TextRange) : ℕ ×ₗ ℕ ×ₗ ℕ ×ₗ ℕ :=
  toLex (range.startLine.toNat, toLex (range.startColumn.toNat,
    toLex (range.endLine.toNat, range.endColumn.toNat)))

theorem TextRange.position_inj {left right : TextRange} :
    left.position = right.position ↔ left = right := by
  refine ⟨fun same => ?_, congrArg position⟩
  simp only [position, toLex_inj, Prod.mk.injEq, UInt32.toNat_inj] at same
  obtain ⟨startLine, startColumn, endLine, endColumn⟩ := same
  cases left
  cases right
  simp_all

namespace Finding

/-- Where a finding is. Findings without a location come before all others. -/
def place (finding : Finding) : WithBot (ℕ ×ₗ ℕ ×ₗ ℕ ×ₗ ℕ) :=
  finding.location.elim ⊥ fun range => range.position

/-- How grave a finding is, from one for a low severity to four for a critical one; zero without a
severity. -/
def grade (finding : Finding) : ℕ :=
  finding.severity.elim 0 fun severity => severity.rank + 1

/-- What findings are sorted by: the graver one comes first, and of two that are equally grave the
one at the lesser place. -/
def gravity (finding : Finding) : ℕᵒᵈ ×ₗ WithBot (ℕ ×ₗ ℕ ×ₗ ℕ ×ₗ ℕ) :=
  toLex (OrderDual.toDual finding.grade, finding.place)

theorem place_eq_iff {left right : Finding} :
    left.place = right.place ↔ left.location = right.location := by
  rw [place, place]
  cases left.location <;> cases right.location <;> simp [TextRange.position_inj]

theorem grade_eq_iff {left right : Finding} :
    left.grade = right.grade ↔ left.severity = right.severity := by
  rw [grade, grade]
  rcases left.severity with - | (- | - | - | -) <;>
    rcases right.severity with - | (- | - | - | -) <;> simp [Severity.rank]

theorem gravity_eq_iff {left right : Finding} :
    left.gravity = right.gravity ↔
      left.severity = right.severity ∧ left.location = right.location := by
  rw [gravity, gravity, toLex_inj, Prod.mk.injEq, OrderDual.toDual_inj, grade_eq_iff, place_eq_iff]

theorem gravity_le_iff {left right : Finding} :
    left.gravity ≤ right.gravity ↔
      right.grade < left.grade ∨ (left.grade = right.grade ∧ left.place ≤ right.place) := by
  rw [gravity, gravity, Prod.Lex.toLex_le_toLex, OrderDual.toDual_lt_toDual, OrderDual.toDual_inj]

end Finding

namespace Statistics

theorem word_then_ne_gt {left right : UInt32} {rest : Ordering} :
    (Ord.compare left right).then rest ≠ .gt ↔
      left.toNat < right.toNat ∨ (left.toNat = right.toNat ∧ rest ≠ .gt) := by
  rw [Ne, Ordering.then_eq_gt, Std.compare_eq_gt, Std.LawfulEqOrd.compare_eq_iff_eq,
    UInt32.lt_iff_toNat_lt, ← UInt32.toNat_inj]
  by_cases same : left.toNat = right.toNat
  · simp [same]
  · simp only [same, false_and, or_false, not_lt]
    omega

theorem compare_ne_gt_iff {left right : TextRange} :
    left.compare right ≠ .gt ↔ left.position ≤ right.position := by
  have last : Ord.compare left.endColumn right.endColumn ≠ .gt ↔
      left.endColumn.toNat ≤ right.endColumn.toNat := by
    rw [Ne, Std.compare_eq_gt, UInt32.lt_iff_toNat_lt, not_lt]
  simp only [TextRange.compare, word_then_ne_gt, last, TextRange.position,
    Prod.Lex.toLex_le_toLex]

theorem compareOption_ne_gt_iff (left right : Finding) :
    TextRange.compareOption left.location right.location ≠ .gt ↔ left.place ≤ right.place := by
  rw [Finding.place, Finding.place]
  cases left.location <;> cases right.location <;>
    simp [TextRange.compareOption, compare_ne_gt_iff]

theorem compareGravity_ne_gt_iff (left right : Finding) :
    compareGravity left right ≠ .gt ↔ left.gravity ≤ right.gravity := by
  have graver : compareSeverity left.severity right.severity =
      Ord.compare right.grade left.grade := by
    rw [compareSeverity, Finding.grade, Finding.grade]
    cases left.severity <;> cases right.severity <;> rfl
  rw [Finding.gravity_le_iff, ← compareOption_ne_gt_iff, compareGravity, graver, Ne,
    Ordering.then_eq_gt, Std.compare_eq_gt, Std.LawfulEqOrd.compare_eq_iff_eq]
  by_cases same : left.grade = right.grade
  · simp [same]
  · simp only [same, Ne.symm same, false_and, or_false, not_lt]
    omega

/-- Findings are sorted by severity, the gravest first, and then by location. -/
theorem sortedBy_sortBySeverity (findings : List Finding) :
    SortedBy Finding.gravity findings (sortBySeverity findings) :=
  sortedBy_sortBy compareGravity_ne_gt_iff findings

theorem sortedBy_sortByLocation (findings : List Finding) :
    SortedBy Finding.place findings (sortByLocation findings) :=
  sortedBy_sortBy compareOption_ne_gt_iff findings

theorem sortBySeverity_sortBySeverity (findings : List Finding) :
    sortBySeverity (sortBySeverity findings) = sortBySeverity findings :=
  sortBy_of_ascending compareGravity_ne_gt_iff
    (sortedBy_sortBySeverity findings).ascending

/-- Findings of one severity and one location stay in their order. -/
theorem filter_sortBySeverity (findings : List Finding) (severity : Option Severity)
    (location : Option TextRange) :
    ((sortBySeverity findings).filter fun finding =>
        finding.severity = severity ∧ finding.location = location) =
      findings.filter fun finding => finding.severity = severity ∧ finding.location = location := by
  -- A finding of this severity and location has the gravity of all of them.
  let pattern : Finding := ⟨.issue, none, "", location, "", severity, "", .unknown⟩
  have alike : (fun finding : Finding =>
      decide (finding.severity = severity ∧ finding.location = location)) =
        fun finding => decide (finding.gravity = pattern.gravity) := by
    funext finding
    rw [decide_eq_decide, Finding.gravity_eq_iff]
  rw [alike]
  exact (sortedBy_sortBySeverity findings).ties pattern.gravity

/-- Findings that are sorted by location first end up in the same order. -/
theorem sortedBy_sortBySeverity_of_place {findings located : List Finding}
    (first : SortedBy Finding.place findings located) :
    SortedBy Finding.gravity findings (sortBySeverity located) :=
  SortedBy.after (fun gravity => (ofLex gravity).2) first (sortedBy_sortBySeverity located)

end Statistics

end ScanMerge
