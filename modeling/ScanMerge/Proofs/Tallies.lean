import ScanMerge.Proofs.StableSorting
import Mathlib.Algebra.BigOperators.Group.List.Lemmas
import Mathlib.Algebra.GroupWithZero.Nat
import Mathlib.Data.List.Induction

/-!
Counts and groups by a text. What updates leave under a key comes from the items of that key, so a
tally holds the true count of every text that occurs, and the groups of findings by file hold the
issues of each file and no others.
-/

set_option autoImplicit false

namespace ScanMerge

namespace KeyMap

variable {α β : Type}

/-- The map that is updated for one item after the other. -/
def collect (keyOf : α → String) (change : α → Option β → β) (items : List α) : KeyMap β :=
  items.foldl (fun (map : KeyMap β) item => map.update (keyOf item) (change item)) .empty

/-- Under a key there is what the items of that key come to. -/
theorem get?_collect (keyOf : α → String) {change : α → Option β → β} (total : List α → β)
    (first : ∀ item, change item none = total [item])
    (next : ∀ items item, change item (some (total items)) = total (items ++ [item]))
    (items : List α) (key : String) (value : β) :
    (collect keyOf change items).get? key = some value ↔
      (items.filter fun item => keyOf item = key) ≠ [] ∧
        total (items.filter fun item => keyOf item = key) = value := by
  induction items using List.reverseRecOn generalizing value with
  | nil => simp [collect]
  | append_singleton items item ih =>
    have last : collect keyOf change (items ++ [item]) =
        (collect keyOf change items).update (keyOf item) (change item) := by
      rw [collect, List.foldl_append]
      rfl
    rw [last, List.filter_append]
    by_cases own : keyOf item = key
    · subst own
      rw [get?_update_self, List.filter_cons_of_pos (by simp), List.filter_nil, Option.some.injEq]
      cases others : items.filter fun other => keyOf other = keyOf item with
      | nil =>
        have absent : (collect keyOf change items).get? (keyOf item) = none := by
          rw [Option.eq_none_iff_forall_ne_some]
          intro value found
          exact ((ih value).mp found).1 others
        simp [absent, first]
      | cons other rest =>
        have present := (ih (total (other :: rest))).mpr (by simp [others])
        simp [present, next]
    · rw [get?_update_of_ne _ (Ne.symm own), List.filter_cons_of_neg (by simpa using own),
        List.filter_nil, List.append_nil, ih]

end KeyMap

/-! ### Counts -/

/-- The entries are the texts that occur in a list, ascending, each with the number of times that it
occurs. -/
structure Counts (texts : List String) (entries : List (String × Nat)) : Prop where
  ascending : entries.Pairwise fun earlier later => earlier.1 < later.1
  mem_iff : ∀ text count, (text, count) ∈ entries ↔ text ∈ texts ∧ count = texts.count text

namespace Counts

variable {texts : List String} {entries : List (String × Nat)} (counts : Counts texts entries)

include counts

theorem perm : entries.Perm (texts.dedup.map fun text => (text, texts.count text)) := by
  have distinct : entries.Nodup := by
    refine counts.ascending.imp ?_
    rintro earlier later less rfl
    exact String.lt_irrefl _ less
  have others : (texts.dedup.map fun text => (text, texts.count text)).Nodup :=
    texts.nodup_dedup.map fun left right same => (Prod.mk.inj same).1
  rw [List.perm_ext_iff_of_nodup distinct others]
  rintro ⟨text, count⟩
  rw [counts.mem_iff, List.mem_map]
  constructor
  · rintro ⟨member, rfl⟩
    exact ⟨text, List.mem_dedup.mpr member, rfl⟩
  · rintro ⟨other, member, same⟩
    obtain ⟨rfl, rfl⟩ := Prod.mk.inj same
    exact ⟨List.mem_dedup.mp member, rfl⟩

theorem length : entries.length = texts.dedup.length := by
  rw [counts.perm.length_eq, List.length_map]

/-- The counts add up to the number of texts. -/
theorem sum : (entries.map Prod.snd).sum = texts.length := by
  rw [(counts.perm.map Prod.snd).sum_eq, List.map_map]
  exact texts.sum_map_count_dedup_eq_length

end Counts

namespace Summary

theorem counts_tally (texts : List String) : Counts texts (tally texts).entries := by
  refine ⟨(tally texts).ordered, fun text count => ?_⟩
  have total : (tally texts).get? text = some count ↔ _ :=
    KeyMap.get?_collect (fun text => text) List.length (fun _ => rfl)
      (fun items _ => by rw [Option.getD_some, List.length_append, List.length_singleton])
      texts text count
  have occurs : (texts.filter fun other => other = text) ≠ [] ↔ text ∈ texts := by
    simp [List.filter_eq_nil_iff]
  have often : (texts.filter fun other => other = text).length = texts.count text := by
    rw [List.count_eq_length_filter]
    rfl
  rw [occurs, often] at total
  rw [KeyMap.mem_entries_iff, total, eq_comm]

theorem sum_values_tally (texts : List String) : (tally texts).values.sum = texts.length :=
  (counts_tally texts).sum

end Summary

/-! ### Groups -/

/-- The items of distinct keys, one key after the other, are all items. -/
theorem perm_flatMap_filter {α : Type} (keyOf : α → String) {keys : List String}
    (distinct : keys.Nodup) {items : List α} (covers : ∀ item ∈ items, keyOf item ∈ keys) :
    (keys.flatMap fun key => items.filter fun item => keyOf item = key).Perm items := by
  induction keys generalizing items with
  | nil =>
    rw [List.eq_nil_iff_forall_not_mem.mpr fun item member => List.not_mem_nil (covers item member)]
    exact .nil
  | cons key rest ih =>
    obtain ⟨fresh, distinct⟩ := List.nodup_cons.mp distinct
    have remain : ∀ item ∈ items.filter fun item => !decide (keyOf item = key),
        keyOf item ∈ rest := by
      intro item member
      obtain ⟨member, other⟩ := List.mem_filter.mp member
      rcases List.mem_cons.mp (covers item member) with own | later
      · simp [own] at other
      · exact later
    have same : (rest.flatMap fun other => items.filter fun item => keyOf item = other) =
        rest.flatMap fun other => (items.filter fun item => !decide (keyOf item = key)).filter
          fun item => keyOf item = other := by
      apply List.flatMap_congr
      intro other later
      rw [List.filter_filter]
      apply List.filter_congr
      intro item _
      by_cases own : keyOf item = other
      · have different : other ≠ key := fun equal => fresh (equal ▸ later)
        simp [own, different]
      · simp [own]
    rw [List.flatMap_cons, same]
    exact ((ih distinct remain).append_left _).trans (List.filter_append_perm _ _)

namespace Statistics

variable (findings : List Finding)

/-- The issues with a label, in the order of the findings. -/
def issuesOf (label : String) : List Finding :=
  findings.filter fun finding => finding.kind = .issue ∧ finding.fileLabel = label

theorem filter_issues (label : String) :
    ((issues findings).filter fun finding => finding.fileLabel = label) =
      issuesOf findings label := by
  rw [issues, issuesOf, List.filter_filter]
  apply List.filter_congr
  intro finding _
  rw [Bool.decide_and, Bool.and_comm]

variable {findings}

theorem mem_issuesOf {label : String} {finding : Finding} :
    finding ∈ issuesOf findings label ↔
      finding ∈ findings ∧ finding.kind = .issue ∧ finding.fileLabel = label := by
  simp [issuesOf]

/-- There is a group for each label of an issue: the issues with that label, by location. -/
theorem mem_entries_groupByFile {label : String} {group : List Finding} :
    (label, group) ∈ (groupByFile findings).entries ↔
      issuesOf findings label ≠ [] ∧ sortByLocation (issuesOf findings label) = group := by
  have grouped (members : List Finding) :
      (label, members) ∈ (KeyMap.collect Finding.fileLabel
          (fun finding group => group.getD [] ++ [finding]) (issues findings)).entries ↔
        issuesOf findings label ≠ [] ∧ issuesOf findings label = members := by
    rw [KeyMap.mem_entries_iff, ← filter_issues]
    exact KeyMap.get?_collect Finding.fileLabel (fun group => group) (fun _ => rfl)
      (fun _ _ => rfl) (issues findings) label members
  change (label, group) ∈ ((KeyMap.collect Finding.fileLabel
    (fun finding group => group.getD [] ++ [finding]) (issues findings)).entries.map
      fun entry => (entry.1, sortByLocation entry.2)) ↔ _
  rw [List.mem_map]
  constructor
  · rintro ⟨⟨other, members⟩, member, same⟩
    obtain ⟨rfl, rfl⟩ := Prod.mk.inj same
    obtain ⟨occurs, own⟩ := (grouped members).mp member
    exact ⟨occurs, congrArg sortByLocation own⟩
  · rintro ⟨occurs, rfl⟩
    exact ⟨(label, issuesOf findings label), (grouped _).mpr ⟨occurs, rfl⟩, rfl⟩

theorem issuesOf_ne_nil_iff {label : String} :
    issuesOf findings label ≠ [] ↔ label ∈ (issues findings).map Finding.fileLabel := by
  rw [← filter_issues]
  simp [List.filter_eq_nil_iff]

theorem mem_keys_groupByFile {label : String} :
    label ∈ (groupByFile findings).keys ↔ label ∈ (issues findings).map Finding.fileLabel := by
  rw [← issuesOf_ne_nil_iff, KeyMap.keys, List.mem_map]
  constructor
  · rintro ⟨⟨_, group⟩, member, rfl⟩
    exact (mem_entries_groupByFile.mp member).1
  · intro occurs
    exact ⟨(label, _), mem_entries_groupByFile.mpr ⟨occurs, rfl⟩, rfl⟩

/-- No group is empty, and each has the issues with its label by location. -/
theorem sortedBy_of_mem_entries {label : String} {group : List Finding}
    (member : (label, group) ∈ (groupByFile findings).entries) :
    group ≠ [] ∧ SortedBy Finding.place (issuesOf findings label) group := by
  obtain ⟨occurs, rfl⟩ := mem_entries_groupByFile.mp member
  have sorts := sortedBy_sortByLocation (issuesOf findings label)
  refine ⟨fun empty => ?_, sorts⟩
  rw [empty] at sorts
  exact occurs sorts.perm.symm.eq_nil

variable (findings)

theorem entries_groupByFile :
    (groupByFile findings).entries = (groupByFile findings).keys.map
      fun label => (label, sortByLocation (issuesOf findings label)) := by
  have own : ∀ entry ∈ (groupByFile findings).entries,
      (entry.1, sortByLocation (issuesOf findings entry.1)) = entry := by
    rintro ⟨label, group⟩ member
    rw [(mem_entries_groupByFile.mp member).2]
  rw [KeyMap.keys, List.map_map]
  exact ((List.map_congr_left own).trans (List.map_id _)).symm

/-- The groups together are the issues. -/
theorem perm_flatten_groupByFile :
    (groupByFile findings).values.flatten.Perm (issues findings) := by
  have covers : ∀ finding ∈ issues findings,
      finding.fileLabel ∈ (groupByFile findings).keys := by
    intro finding member
    exact mem_keys_groupByFile.mpr (List.mem_map_of_mem member)
  rw [KeyMap.values, entries_groupByFile, List.map_map, ← List.flatMap_def]
  refine List.Perm.trans ?_
    (perm_flatMap_filter Finding.fileLabel (groupByFile findings).nodup_keys covers)
  refine List.Perm.flatMap (.refl _) fun label _ => ?_
  rw [filter_issues]
  exact (sortedBy_sortByLocation _).perm

/-- The sizes of the groups count the labels of the issues. -/
theorem counts_groupByFile :
    Counts ((issues findings).map Finding.fileLabel)
      ((groupByFile findings).entries.map fun entry => (entry.1, entry.2.length)) := by
  refine ⟨?_, fun label size => ?_⟩
  · rw [List.pairwise_map]
    exact (groupByFile findings).ordered
  · have often : ((issues findings).map Finding.fileLabel).count label =
        (issuesOf findings label).length := by
      rw [List.count_eq_countP, List.countP_map, List.countP_eq_length_filter, ← filter_issues]
      rfl
    rw [often, ← issuesOf_ne_nil_iff, List.mem_map]
    constructor
    · rintro ⟨⟨other, group⟩, member, same⟩
      obtain ⟨rfl, rfl⟩ := Prod.mk.inj same
      obtain ⟨occurs, rfl⟩ := mem_entries_groupByFile.mp member
      exact ⟨occurs, (sortedBy_sortByLocation _).perm.length_eq⟩
    · rintro ⟨occurs, rfl⟩
      exact ⟨(label, _), mem_entries_groupByFile.mpr ⟨occurs, rfl⟩,
        congrArg (label, ·) (sortedBy_sortByLocation _).perm.length_eq⟩

end Statistics

end ScanMerge
