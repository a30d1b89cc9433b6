import ScanMerge.Project

/-!
Orders, groups and counts of findings and warnings for reports. All sorting keeps the order of equal
items.
-/

set_option autoImplicit false

namespace ScanMerge.Statistics

/-- A list in order; items that compare as equal keep their order. -/
def sortBy {α : Type} (compare : α → α → Ordering) (items : List α) : List α :=
  items.mergeSort fun left right => compare left right != .gt

/-- Sorting keeps the order of items that are not told apart. -/
theorem filter_mergeSort {α : Type} {le : α → α → Bool}
    (transitive : ∀ first second third, le first second → le second third → le first third)
    (total : ∀ first second, le first second || le second first) {alike : α → Bool}
    {items : List α} (tied : ∀ first second, alike first → alike second → le first second) :
    (items.mergeSort le).filter alike = items.filter alike := by
  have ordered : (items.filter alike).Pairwise fun first second => le first second = true := by
    apply List.pairwise_of_forall_mem_list
    intro first firstIn second secondIn
    exact tied first second (List.mem_filter.mp firstIn).2 (List.mem_filter.mp secondIn).2
  have inside := (List.sublist_mergeSort transitive total ordered List.filter_sublist).filter alike
  rw [List.filter_filter] at inside
  simp only [Bool.and_self] at inside
  exact (inside.eq_of_length ((List.mergeSort_perm items le).symm.filter alike).length_eq).symm

/-- The order of optional severities, the gravest first and none last. -/
def compareSeverity (left right : Option Severity) : Ordering :=
  let place (severity : Option Severity) : Nat := (severity.map fun s => s.rank + 1).getD 0
  Ord.compare (place right) (place left)

/-- The order of findings by severity and then by location. -/
def compareGravity (left right : Finding) : Ordering :=
  (compareSeverity left.severity right.severity).then
    (TextRange.compareOption left.location right.location)

/-- Findings by severity and then by location. -/
def sortBySeverity (findings : List Finding) : List Finding :=
  sortBy compareGravity findings

def sortByLocation (findings : List Finding) : List Finding :=
  sortBy (fun left right => TextRange.compareOption left.location right.location) findings

def issues (findings : List Finding) : List Finding :=
  findings.filter (·.kind = .issue)

/-- The issues of each file, by location. -/
def groupByFile (findings : List Finding) : KeyMap (List Finding) :=
  let grouped : KeyMap (List Finding) :=
    (issues findings).foldl
      (fun groups finding =>
        groups.update finding.fileLabel fun group => group.getD [] ++ [finding])
      .empty
  ⟨grouped.entries.map fun entry => (entry.1, sortByLocation entry.2), by
    simpa [List.pairwise_map] using grouped.ordered⟩

def issuesByModule (findings : List Finding) : KeyMap Nat :=
  Summary.tally ((issues findings).map (·.moduleKey))

/-- The number of warnings of each kind that occurs, by kind. -/
def warningsByKind (warnings : List Warning) : List (WarningKind × Nat) :=
  (WarningKind.all.map fun kind => (kind, warnings.countP (·.kind = kind))).filter (·.2 ≠ 0)

/-- The greatest counts, at most `limit` of them, the greatest first. -/
def greatest (limit : Nat) (counts : List (String × Nat)) : List (String × Nat) :=
  (sortBy (fun left right => Ord.compare right.2 left.2) counts).take limit

def topKeys (summary : Summary) (limit : Nat) : List (String × Nat) :=
  greatest limit summary.byKey.entries

def mostProblematicFiles (findings : List Finding) (limit : Nat) : List (String × Nat) :=
  greatest limit ((groupByFile findings).entries.map fun entry => (entry.1, entry.2.length))

end ScanMerge.Statistics
