import ScanMerge.Merge

/-!
Collected values as sets. A telemetry table and the methods of a module hold exactly what was
collected, ascending, so that neither the order of collecting nor a repetition shows.
-/

set_option autoImplicit false

namespace ScanMerge

/-- Ascending lists are told apart by their members. -/
theorem eq_of_ascending {α : Type} {before : α → α → Prop}
    (asymmetric : ∀ first second, before first second → ¬ before second first)
    {left right : List α} (leftAscending : left.Pairwise before)
    (rightAscending : right.Pairwise before)
    (same : ∀ value, value ∈ left ↔ value ∈ right) : left = right := by
  have distinct : ∀ first second, before first second → first ≠ second := by
    intro first second less equal
    subst equal
    exact asymmetric first first less less
  have leftNodup : left.Nodup := leftAscending.imp fun {first second} => distinct first second
  have rightNodup : right.Nodup := rightAscending.imp fun {first second} => distinct first second
  refine List.Perm.eq_of_pairwise ?_ leftAscending rightAscending
    ((List.perm_ext_iff_of_nodup leftNodup rightNodup).mpr same)
  intro first second _ _ less greater
  exact absurd greater (asymmetric first second less)

/-! ### Texts -/

theorem ascending_insertText (text : String) {texts : List String}
    (ascending : texts.Pairwise (· < ·)) : (insertText text texts).Pairwise (· < ·) := by
  induction texts with
  | nil => exact List.pairwise_singleton _ _
  | cons present rest ih =>
    obtain ⟨least, restAscending⟩ := List.pairwise_cons.mp ascending
    simp only [insertText]
    split
    · next less =>
      refine List.pairwise_cons.mpr ⟨?_, ascending⟩
      intro later member
      rcases List.mem_cons.mp member with rfl | member
      · exact less
      · exact String.lt_trans less (least later member)
    · next notLess =>
      split
      · exact ascending
      · next different =>
        refine List.pairwise_cons.mpr ⟨?_, ih restAscending⟩
        intro later member
        rcases mem_insertText.mp member with rfl | member
        · apply Classical.byContradiction
          intro notGreater
          exact different (String.le_antisymm (String.not_lt.mp notGreater)
            (String.not_lt.mp notLess))
        · exact least later member

theorem insertText_ne_nil (text : String) (texts : List String) : insertText text texts ≠ [] :=
  List.ne_nil_of_mem (mem_insertText.mpr (.inl rfl))

/-! ### Telemetry -/

namespace TelemetryTable

/-- The value is listed under the key. -/
def Lists (table : TelemetryTable) (key value : String) : Prop :=
  ∃ values, table.get? key = some values ∧ value ∈ values

/-- Every key has a value, and the values of a key ascend. -/
def Ascends (table : TelemetryTable) : Prop :=
  ∀ key values, table.get? key = some values → values ≠ [] ∧ values.Pairwise (· < ·)

theorem not_lists_empty (key value : String) : ¬ Lists .empty key value := by
  rintro ⟨values, found, -⟩
  cases found

theorem ascends_empty : Ascends .empty := by
  intro key values found
  cases found

theorem lists_add (table : TelemetryTable) (key value other text : String) :
    (table.add key value).Lists other text ↔
      (other = key ∧ text = value) ∨ table.Lists other text := by
  by_cases own : other = key
  · subst own
    simp only [Lists, add, KeyMap.get?_update_self, Option.some.injEq, exists_eq_left',
      mem_insertText, true_and]
    apply or_congr_right
    cases table.get? other with
    | none => simp
    | some present => simp
  · simp only [Lists, add, KeyMap.get?_update_of_ne table own, own, false_and, false_or]

theorem Ascends.add {table : TelemetryTable} (ascends : table.Ascends) (key value : String) :
    (table.add key value).Ascends := by
  intro other values found
  by_cases own : other = key
  · subst own
    rw [TelemetryTable.add, KeyMap.get?_update_self] at found
    obtain rfl := Option.some.inj found
    refine ⟨insertText_ne_nil _ _, ascending_insertText value ?_⟩
    cases present : table.get? other with
    | none => exact .nil
    | some values => exact (ascends other values present).2
  · rw [TelemetryTable.add, KeyMap.get?_update_of_ne table own] at found
    exact ascends other values found

theorem lists_addAll (table : TelemetryTable) (pairs : List (String × String))
    (key value : String) :
    (table.addAll pairs).Lists key value ↔ (key, value) ∈ pairs ∨ table.Lists key value := by
  rw [addAll]
  induction pairs generalizing table with
  | nil => simp
  | cons pair rest ih =>
    rw [List.foldl_cons, ih, lists_add, List.mem_cons, or_left_comm, or_assoc, Prod.ext_iff]

theorem Ascends.addAll {table : TelemetryTable} (ascends : table.Ascends)
    (pairs : List (String × String)) : (table.addAll pairs).Ascends := by
  rw [TelemetryTable.addAll]
  induction pairs generalizing table with
  | nil => exact ascends
  | cons pair rest ih => exact ih (ascends.add pair.1 pair.2)

theorem lists_ofPairs (pairs : List (String × String)) (key value : String) :
    (ofPairs pairs).Lists key value ↔ (key, value) ∈ pairs := by
  rw [ofPairs, lists_addAll]
  simp [not_lists_empty]

theorem ascends_ofPairs (pairs : List (String × String)) : (ofPairs pairs).Ascends :=
  ascends_empty.addAll pairs

theorem mem_pairs_iff {table : TelemetryTable} {key value : String} :
    (key, value) ∈ table.pairs ↔ table.Lists key value := by
  simp only [pairs, List.mem_flatMap, List.mem_map, Prod.mk.injEq, Prod.exists,
    KeyMap.mem_entries_iff, Lists]
  constructor
  · rintro ⟨_, values, found, _, member, rfl, rfl⟩
    exact ⟨values, found, member⟩
  · rintro ⟨values, found, member⟩
    exact ⟨key, values, found, value, member, rfl, rfl⟩

theorem lists_merge (table other : TelemetryTable) (key value : String) :
    (table.merge other).Lists key value ↔ other.Lists key value ∨ table.Lists key value := by
  rw [merge, lists_addAll, mem_pairs_iff]

theorem lists_ofEntries {entries : Facts TelemetryEntry} {key value : String} :
    (ofEntries entries).Lists key value ↔ ⟨key, value⟩ ∈ entries.all := by
  rw [ofEntries, lists_ofPairs, List.mem_map]
  constructor
  · rintro ⟨entry, member, same⟩
    cases same
    exact member
  · exact fun member => ⟨_, member, rfl⟩

theorem lists_documentPairs {documents : Facts Json} {key value : String} :
    (ofDocuments documents).Lists key value ↔
      ∃ document ∈ documents.all, (key, value) ∈ documentPairs document := by
  rw [ofDocuments, lists_ofPairs, List.mem_flatMap]

/-- Ascending tables are told apart by what they list. -/
theorem Ascends.eq_of_lists {left right : TelemetryTable} (leftAscends : left.Ascends)
    (rightAscends : right.Ascends)
    (same : ∀ key value, left.Lists key value ↔ right.Lists key value) : left = right := by
  -- A key has values on one side only if it has the first of them on the other.
  have absent : ∀ {table other : TelemetryTable} {key : String}, table.Ascends →
      (∀ value, table.Lists key value ↔ other.Lists key value) → other.get? key = none →
      table.get? key = none := by
    intro table other key ascends same missing
    cases found : table.get? key with
    | none => rfl
    | some values =>
      obtain ⟨value, member⟩ := List.exists_mem_of_ne_nil _ (ascends key values found).1
      obtain ⟨others, otherFound, -⟩ := (same value).mp ⟨values, found, member⟩
      rw [missing] at otherFound
      cases otherFound
  apply KeyMap.ext_get?
  intro key
  cases rightFound : right.get? key with
  | none => exact absent leftAscends (same key) rightFound
  | some rightValues =>
    cases leftFound : left.get? key with
    | none =>
      rw [absent rightAscends (fun value => (same key value).symm) leftFound] at rightFound
      cases rightFound
    | some leftValues =>
      congr 1
      apply eq_of_ascending (fun _ _ => String.lt_asymm) (leftAscends key leftValues leftFound).2
        (rightAscends key rightValues rightFound).2
      intro value
      simpa [Lists, leftFound, rightFound] using same key value

end TelemetryTable

/-- The telemetry of a result is what was registered, the leaves of registered documents and what
telemetry findings say. -/
theorem Merge.lists_telemetry {session : Session} {findings : List Finding} {key value : String} :
    (Merge.telemetry session findings).Lists key value ↔
      ⟨key, value⟩ ∈ session.telemetry.all ∨
      (∃ document ∈ session.documents.all,
        (key, value) ∈ TelemetryTable.documentPairs document) ∨
      ∃ finding ∈ findings, finding.kind = .telemetry ∧ finding.key = key ∧
        finding.message = value := by
  rw [telemetry, TelemetryTable.lists_addAll, TelemetryTable.lists_merge,
    TelemetryTable.lists_ofEntries, TelemetryTable.lists_documentPairs, or_comm,
    or_comm (b := ⟨key, value⟩ ∈ session.telemetry.all), or_assoc]
  simp [and_assoc]

theorem Merge.ascends_telemetry (session : Session) (findings : List Finding) :
    (Merge.telemetry session findings).Ascends :=
  ((TelemetryTable.ascends_ofPairs _).addAll _).addAll _

/-! ### Methods -/

namespace MethodDeclaration

theorem compare_eq :
    MethodDeclaration.compare = compareLex (compareOn MethodDeclaration.filePath)
      (compareLex (compareOn MethodDeclaration.typeName)
        (compareOn MethodDeclaration.methodName)) := rfl

theorem eq_of_compare {left right : MethodDeclaration} (equal : left.compare right = .eq) :
    left = right := by
  simp only [compare, Ordering.then_eq_eq, Std.LawfulEqOrd.compare_eq_iff_eq] at equal
  obtain ⟨file, type, method⟩ := equal
  cases left
  cases right
  simp_all

theorem compare_trans {first second third : MethodDeclaration}
    (less : first.compare second = .lt) (after : second.compare third = .lt) :
    first.compare third = .lt := by
  rw [compare_eq] at less after ⊢
  exact Std.TransCmp.lt_trans less after

theorem compare_swap {first second : MethodDeclaration} :
    first.compare second = .gt ↔ second.compare first = .lt := by
  rw [compare_eq]
  exact Std.OrientedCmp.gt_iff_lt

/-- Every method comes before the later ones. -/
def Ascending (methods : List MethodDeclaration) : Prop :=
  methods.Pairwise fun earlier later => earlier.compare later = .lt

theorem mem_insert {method other : MethodDeclaration} {methods : List MethodDeclaration} :
    other ∈ method.insert methods ↔ other = method ∨ other ∈ methods := by
  induction methods with
  | nil => simp [insert]
  | cons present rest ih =>
    rw [insert]
    cases order : method.compare present with
    | lt => simp
    | eq => simp [eq_of_compare order]
    | gt => simp [ih, or_left_comm]

theorem ascending_insert (method : MethodDeclaration) {methods : List MethodDeclaration}
    (ascending : Ascending methods) : Ascending (method.insert methods) := by
  induction methods with
  | nil => exact List.pairwise_singleton _ _
  | cons present rest ih =>
    obtain ⟨least, restAscending⟩ := List.pairwise_cons.mp ascending
    rw [insert]
    cases order : method.compare present with
    | lt =>
      refine List.pairwise_cons.mpr ⟨?_, ascending⟩
      intro later member
      rcases List.mem_cons.mp member with rfl | member
      · exact order
      · exact compare_trans order (least later member)
    | eq => exact ascending
    | gt =>
      refine List.pairwise_cons.mpr ⟨?_, ih restAscending⟩
      intro later member
      rcases mem_insert.mp member with rfl | member
      · exact compare_swap.mp order
      · exact least later member

theorem mem_distinct {methods : List MethodDeclaration} {method : MethodDeclaration} :
    method ∈ distinct methods ↔ method ∈ methods := by
  suffices general : ∀ present : List MethodDeclaration,
      method ∈ methods.foldl (fun present method => method.insert present) present ↔
        method ∈ methods ∨ method ∈ present by
    simpa [distinct] using general []
  induction methods with
  | nil => simp
  | cons first rest ih =>
    intro present
    rw [List.foldl_cons, ih, mem_insert, List.mem_cons, or_left_comm, or_assoc]

theorem ascending_distinct (methods : List MethodDeclaration) : Ascending (distinct methods) := by
  suffices general : ∀ present : List MethodDeclaration, Ascending present →
      Ascending (methods.foldl (fun present method => method.insert present) present) from
    general [] .nil
  induction methods with
  | nil => exact fun present ascending => ascending
  | cons first rest ih => exact fun present ascending => ih _ (ascending_insert first ascending)

/-- The order of methods and their repetitions do not show in the distinct ones. -/
theorem distinct_congr {left right : List MethodDeclaration}
    (same : ∀ method, method ∈ left ↔ method ∈ right) : distinct left = distinct right := by
  refine eq_of_ascending ?_ (ascending_distinct left) (ascending_distinct right) ?_
  · intro first second less greater
    have swapped := compare_swap.mpr greater
    rw [less] at swapped
    cases swapped
  · intro method
    rw [mem_distinct, mem_distinct, same]

end MethodDeclaration

end ScanMerge
