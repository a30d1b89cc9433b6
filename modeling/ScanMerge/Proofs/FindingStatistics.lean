import ScanMerge.Proofs.Tallies

/-!
What the statistics of findings say. Groups, counts and summaries agree with one another, and a list
of the most frequent texts names them with their true counts and leaves out none that comes before
one that is listed.
-/

set_option autoImplicit false

namespace ScanMerge.Statistics

theorem length_issues (findings : List Finding) :
    (issues findings).length = (Summary.ofFindings findings).issues :=
  List.countP_eq_length_filter.symm

/-- The statistics of a list of findings agree with it and with one another. -/
structure Agree (findings : List Finding) : Prop where
  /-- Every issue is in one group, and nothing else is in any. -/
  partition : (groupByFile findings).values.flatten.Perm (findings.filter (·.kind = .issue))
  groups : ∀ label group, (label, group) ∈ (groupByFile findings).entries →
    group ≠ [] ∧ SortedBy Finding.place (issuesOf findings label) group
  sizes : ((groupByFile findings).values.map List.length).sum =
    (Summary.ofFindings findings).issues
  modules : Counts ((issues findings).map Finding.moduleKey) (issuesByModule findings).entries
  moduleCounts : (issuesByModule findings).values.sum = (Summary.ofFindings findings).issues
  gravity : SortedBy Finding.gravity findings (sortBySeverity findings)
  ties : ∀ severity location, ((sortBySeverity findings).filter fun finding =>
      finding.severity = severity ∧ finding.location = location) =
    findings.filter fun finding => finding.severity = severity ∧ finding.location = location
  settled : sortBySeverity (sortBySeverity findings) = sortBySeverity findings

/-- A text with its count comes before another one: it occurs more often, or as often and is the
lesser text. -/
def Outranks (first second : String × Nat) : Prop :=
  second.2 < first.2 ∨ (first.2 = second.2 ∧ first.1 < second.1)

/-- The lists name the most frequent texts: for each limit the list has as many entries as there
are, up to the limit. -/
structure ListsGreatest (texts : List String) (top : Nat → List (String × Nat)) : Prop where
  length : ∀ limit, (top limit).length = min limit texts.dedup.length
  counts : ∀ limit, ∀ entry ∈ top limit, entry.1 ∈ texts ∧ entry.2 = texts.count entry.1
  ordered : ∀ limit, (top limit).Pairwise Outranks
  /-- A text that is left out comes after all that are listed. -/
  omitted : ∀ limit, ∀ text ∈ texts, text ∉ (top limit).map Prod.fst →
    ∀ entry ∈ top limit, Outranks entry (text, texts.count text)
  grows : ∀ limit, top limit <+: top (limit + 1)

theorem compareCounts_ne_gt_iff (left right : String × Nat) :
    Ord.compare right.2 left.2 ≠ .gt ↔ OrderDual.toDual left.2 ≤ OrderDual.toDual right.2 :=
  Nat.compare_ne_gt

theorem listsGreatest_of_counts {texts : List String} {entries : List (String × Nat)}
    (counts : Counts texts entries) : ListsGreatest texts (greatest · entries) := by
  have sorts := sortedBy_sortBy compareCounts_ne_gt_iff entries
  -- Entries ascend in their texts, and those with equal counts still do when they are sorted.
  have ordered := sorts.pairwise counts.ascending
  have cut (limit : Nat) := List.take_append_drop limit
    (sortBy (fun left right => Ord.compare right.2 left.2) entries)
  refine ⟨fun limit => ?_, fun limit entry member => ?_, fun limit => ?_,
    fun limit text occurs left entry member => ?_, fun limit => ?_⟩
  · rw [greatest, List.length_take, sorts.perm.length_eq, counts.length]
  · exact (counts.mem_iff _ _).mp (sorts.perm.mem_iff.mp (List.mem_of_mem_take member))
  · exact ordered.sublist (List.take_sublist _ _)
  · have listed : (text, texts.count text) ∈
        sortBy (fun left right => Ord.compare right.2 left.2) entries :=
      sorts.perm.mem_iff.mpr ((counts.mem_iff _ _).mpr ⟨occurs, rfl⟩)
    rw [← cut limit, List.mem_append] at listed
    rcases listed with inside | behind
    · exact absurd (List.mem_map_of_mem inside) left
    · rw [← cut limit, List.pairwise_append] at ordered
      exact ordered.2.2 entry member _ behind
  · exact List.take_prefix_take_left (Nat.le_succ limit)

/-- Keys are listed by the number of their findings, and files by the number of their issues. -/
theorem top_lists_greatest (findings : List Finding) :
    ListsGreatest (findings.map Finding.key) (topKeys (Summary.ofFindings findings)) ∧
      ListsGreatest ((issues findings).map Finding.fileLabel) (mostProblematicFiles findings) :=
  ⟨listsGreatest_of_counts (Summary.counts_tally _),
    listsGreatest_of_counts (counts_groupByFile findings)⟩

end ScanMerge.Statistics
