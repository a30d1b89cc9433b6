import ScanMerge.Proofs.CollectedSets
import ScanMerge.Proofs.Deliveries
import ScanMerge.Proofs.PublishedResult

/-!
Lists in which members come again after their first place. What is told from the first places, such
as the findings that are published for artifacts, is the same with and without the repetitions.
-/

set_option autoImplicit false

namespace ScanMerge

/-- The longer list is the list with repetitions, each of them later than what it repeats. -/
inductive Repeats {α : Type} : List α → List α → Prop
  | nil : Repeats [] []
  | snoc {list longer : List α} (repeats : Repeats list longer) (value : α) :
    Repeats (list ++ [value]) (longer ++ [value])
  | again {list longer : List α} (repeats : Repeats list longer) {value : α}
    (member : value ∈ list) : Repeats list (longer ++ [value])

namespace Repeats

variable {α β : Type} {list longer : List α}

theorem refl (list : List α) : Repeats list list := by
  induction list using List.reverseRecOn with
  | nil => exact .nil
  | append_singleton list value ih => exact ih.snoc value

theorem mem_iff (repeats : Repeats list longer) {value : α} : value ∈ longer ↔ value ∈ list := by
  induction repeats with
  | nil => exact Iff.rfl
  | snoc repeats last ih => rw [List.mem_append, List.mem_append, ih]
  | again repeats member ih =>
    rw [List.mem_append, ih, List.mem_singleton, or_iff_left_iff_imp]
    rintro rfl
    exact member

theorem sublist (repeats : Repeats list longer) : list.Sublist longer := by
  induction repeats with
  | nil => exact .slnil
  | snoc repeats last ih => exact ih.append_right [last]
  | again repeats member ih => exact ih.trans (List.sublist_append_left _ _)

theorem append {others longerOthers : List α} (repeats : Repeats list longer)
    (repeatsOthers : Repeats others longerOthers) :
    Repeats (list ++ others) (longer ++ longerOthers) := by
  induction repeatsOthers with
  | nil => simpa only [List.append_nil] using repeats
  | snoc _ last ih =>
    rw [← List.append_assoc, ← List.append_assoc]
    exact ih.snoc last
  | again _ member ih =>
    rw [← List.append_assoc]
    exact ih.again (List.mem_append_right list member)

theorem append_again (repeats : Repeats list longer) {values : List α} (members : values ⊆ list) :
    Repeats list (longer ++ values) := by
  induction values using List.reverseRecOn with
  | nil => simpa only [List.append_nil] using repeats
  | append_singleton values last ih =>
    rw [← List.append_assoc]
    have before := ih fun value member => members (List.mem_append_left _ member)
    exact before.again (members (List.mem_append_right _ (List.mem_singleton_self last)))

theorem flatMap (repeats : Repeats list longer) (change : α → List β) :
    Repeats (list.flatMap change) (longer.flatMap change) := by
  induction repeats with
  | nil => exact .nil
  | snoc _ last ih =>
    rw [List.flatMap_append, List.flatMap_append]
    exact ih.append (.refl _)
  | again _ member ih =>
    rw [List.flatMap_append, List.flatMap_singleton]
    exact ih.append_again fun value inside => List.mem_flatMap_of_mem member inside

theorem filterMap (repeats : Repeats list longer) (change : α → Option β) :
    Repeats (list.filterMap change) (longer.filterMap change) := by
  rw [List.filterMap_eq_flatMap_toList, List.filterMap_eq_flatMap_toList]
  exact repeats.flatMap fun value => (change value).toList

/-- What is found first is found in a first place. -/
theorem find? (repeats : Repeats list longer) (wanted : α → Bool) :
    longer.find? wanted = list.find? wanted := by
  induction repeats with
  | nil => rfl
  | snoc _ last ih => rw [List.find?_append, List.find?_append, ih]
  | again repeats member ih =>
    rw [List.find?_append, ih]
    cases found : List.find? wanted _ with
    | some first => rfl
    | none =>
      have missing := List.find?_eq_none.mp found _ member
      rw [List.find?_cons_of_neg missing, List.find?_nil, Option.or_none]

theorem any (repeats : Repeats list longer) (wanted : α → Bool) :
    longer.any wanted = list.any wanted := by
  rw [Bool.eq_iff_iff, List.any_eq_true, List.any_eq_true]
  simp only [repeats.mem_iff]

theorem isEmpty (repeats : Repeats list longer) : longer.isEmpty = list.isEmpty := by
  rw [Bool.eq_iff_iff, List.isEmpty_iff, List.isEmpty_iff, List.eq_nil_iff_forall_not_mem,
    List.eq_nil_iff_forall_not_mem]
  simp only [repeats.mem_iff]

end Repeats

/-! ### Facts -/

theorem KeyMap.keys_congr {α β : Type} {left : KeyMap α} {right : KeyMap β}
    (same : ∀ key, (left.get? key).isSome = (right.get? key).isSome) : left.keys = right.keys := by
  apply eq_of_ascending (fun _ _ => String.lt_asymm) left.ascending_keys right.ascending_keys
  intro key
  rw [KeyMap.mem_keys, KeyMap.mem_keys, same key]

namespace Facts

variable {α : Type}

theorem entries_eq (facts : Facts α) :
    facts.entries = facts.keys.map fun moduleKey => (moduleKey, facts.of moduleKey) := by
  have own : ∀ entry ∈ facts.entries, (entry.1, facts.of entry.1) = entry := by
    rintro ⟨moduleKey, values⟩ member
    rw [of, KeyMap.get?, KeyMap.lookup_of_mem facts.ordered member]
    rfl
  rw [KeyMap.keys, List.map_map]
  exact ((List.map_congr_left own).trans (List.map_id _)).symm

/-- The facts, with some of them registered again for their modules. -/
structure Repeats (facts more : Facts α) : Prop where
  present : ∀ moduleKey, (more.get? moduleKey).isSome = (facts.get? moduleKey).isSome
  of : ∀ moduleKey, ScanMerge.Repeats (facts.of moduleKey) (more.of moduleKey)

theorem Repeats.refl (facts : Facts α) : facts.Repeats facts :=
  ⟨fun _ => rfl, fun _ => .refl _⟩

variable {facts more : Facts α} (repeats : facts.Repeats more)

include repeats

theorem Repeats.keys : more.keys = facts.keys :=
  KeyMap.keys_congr repeats.present

theorem Repeats.all : ScanMerge.Repeats facts.all more.all := by
  rw [Facts.all, Facts.all, KeyMap.values, KeyMap.values, facts.entries_eq, more.entries_eq,
    repeats.keys]
  induction facts.keys with
  | nil => exact .nil
  | cons moduleKey rest ih => exact (repeats.of moduleKey).append ih

theorem Repeats.push (moduleKey : String) (fact : α) :
    (facts.push moduleKey fact).Repeats (more.push moduleKey fact) := by
  constructor
  case present =>
    intro other
    by_cases own : other = moduleKey
    · subst own
      rw [Facts.push, Facts.push, KeyMap.get?_update_self, KeyMap.get?_update_self]
      rfl
    · rw [Facts.push, Facts.push, KeyMap.get?_update_of_ne _ own, KeyMap.get?_update_of_ne _ own]
      exact repeats.present other
  case of =>
    intro other
    by_cases own : other = moduleKey
    · subst own
      rw [of_push_self, of_push_self]
      exact (repeats.of other).snoc fact
    · rw [of_push_of_ne _ own, of_push_of_ne _ own]
      exact repeats.of other

/-- A fact that is there already may come again. -/
theorem Repeats.push_again {moduleKey : String} {fact : α} (member : fact ∈ facts.of moduleKey) :
    facts.Repeats (more.push moduleKey fact) := by
  constructor
  case present =>
    intro other
    by_cases own : other = moduleKey
    · subst own
      rw [Facts.push, KeyMap.get?_update_self]
      cases found : facts.get? other with
      | some values => rfl
      | none =>
        rw [Facts.of, found] at member
        cases member
    · rw [Facts.push, KeyMap.get?_update_of_ne _ own]
      exact repeats.present other
  case of =>
    intro other
    by_cases own : other = moduleKey
    · subst own
      rw [of_push_self]
      exact (repeats.of other).again member
    · rw [of_push_of_ne _ own]
      exact repeats.of other

theorem Repeats.pushAny (moduleKey : String) (fact? : Option α) :
    (facts.pushAny moduleKey fact?).Repeats (more.pushAny moduleKey fact?) := by
  cases fact? with
  | none => exact repeats
  | some fact => exact repeats.push moduleKey fact

theorem Repeats.pushAny_again {moduleKey : String} {fact? : Option α}
    (members : ∀ fact ∈ fact?, fact ∈ facts.of moduleKey) :
    facts.Repeats (more.pushAny moduleKey fact?) := by
  cases fact? with
  | none => exact repeats
  | some fact => exact repeats.push_again (members fact rfl)

end Facts

namespace ModuleMethods

/-- The methods of modules are told by the modules that declare any and by what each declares. -/
theorem ofFacts_congr {left right : Facts MethodDeclaration} (keys : left.keys = right.keys)
    (members : ∀ moduleKey method, method ∈ left.of moduleKey ↔ method ∈ right.of moduleKey)
    (projectType : String → ProjectType) :
    ofFacts projectType left = ofFacts projectType right := by
  rw [ofFacts, ofFacts, left.entries_eq, right.entries_eq, keys, List.map_map, List.map_map]
  apply List.map_congr_left
  intro moduleKey _
  have same : MethodDeclaration.distinct (left.of moduleKey) =
      MethodDeclaration.distinct (right.of moduleKey) :=
    MethodDeclaration.distinct_congr (members moduleKey)
  simp only [Function.comp_apply, same]

/-- The methods of modules do not show repetitions. -/
theorem ofFacts_of_repeats {facts more : Facts MethodDeclaration} (repeats : facts.Repeats more)
    (projectType : String → ProjectType) : ofFacts projectType more = ofFacts projectType facts :=
  ofFacts_congr repeats.keys (fun moduleKey _ => (repeats.of moduleKey).mem_iff) projectType

end ModuleMethods

/-! ### Published findings -/

namespace Published

theorem firsts_of_repeats {findings longer : List Finding} (repeats : Repeats findings longer) :
    firsts longer = firsts findings := by
  induction repeats with
  | nil => rfl
  | snoc repeats last ih =>
    rw [firsts_append_singleton, firsts_append_singleton, ih, repeats.any]
  | @again findings longer repeats last member ih =>
    -- What comes again has the identity of a finding before it, and so is not a first one.
    have known : (longer.any fun earlier => earlier.identity = last.identity) = true :=
      List.any_eq_true.mpr ⟨last, repeats.mem_iff.mpr member, decide_eq_true rfl⟩
    rw [firsts_append_singleton, known, if_pos rfl, List.append_nil, ih]

theorem contributions_of_repeats (registry : Registry) (disk : Disk)
    {artifacts longer : List Artifact} (repeats : Repeats artifacts longer) :
    Repeats (contributions registry disk artifacts) (contributions registry disk longer) :=
  repeats.filterMap _

theorem skipped_of_repeats (registry : Registry) (disk : Disk) {artifacts longer : List Artifact}
    (repeats : Repeats artifacts longer) :
    Repeats (skipped registry disk artifacts) (skipped registry disk longer) :=
  repeats.filterMap _

section Contributions

variable {contributions longer : List (Artifact × Contribution)}
  (repeats : Repeats contributions longer)

include repeats

theorem hints_of_repeats : Repeats (hints contributions) (hints longer) :=
  repeats.flatMap _

theorem reported_of_repeats : Repeats (reported contributions) (reported longer) :=
  repeats.flatMap _

theorem importWarnings_of_repeats :
    Repeats (importWarnings contributions) (importWarnings longer) :=
  repeats.flatMap _

theorem lookups_of_repeats : Repeats (lookups contributions) (lookups longer) :=
  (hints_of_repeats repeats).append ((reported_of_repeats repeats).filterMap _)

theorem canonical_of_repeats (session : Session) (disk : Disk) :
    canonical? session disk (lookups longer) = canonical? session disk (lookups contributions) := by
  funext moduleKey path
  rw [canonical?, canonical?, firstSpelling, firstSpelling, (lookups_of_repeats repeats).find?]

theorem generated_of_repeats (session : Session) (disk : Disk) :
    Repeats (generated session disk contributions) (generated session disk longer) := by
  rw [generated, generated, canonical_of_repeats repeats]
  exact (hints_of_repeats repeats).filterMap _

theorem place_of_repeats (session : Session) (disk : Disk) :
    place? session disk (lookups longer) (generated session disk longer) =
      place? session disk (lookups contributions) (generated session disk contributions) := by
  have kept : keeps session (generated session disk longer) =
      keeps session (generated session disk contributions) := by
    funext file
    simp only [keeps, (generated_of_repeats repeats session disk).any]
  funext moduleKey finding
  simp only [place?, kept, canonical_of_repeats repeats]

theorem placed_of_repeats (session : Session) (disk : Disk) :
    Repeats (placed session disk contributions) (placed session disk longer) := by
  rw [placed, placed, place_of_repeats repeats]
  exact (reported_of_repeats repeats).filterMap _

theorem filtered_of_repeats (session : Session) (disk : Disk) :
    (filtered session disk contributions).Sublist (filtered session disk longer) := by
  rw [filtered, filtered, place_of_repeats repeats]
  exact (reported_of_repeats repeats).sublist.filter _

/-- The findings of artifacts that come again are those of the first time. -/
theorem findingsOf_of_repeats (session : Session) (disk : Disk) :
    findingsOf session disk longer = findingsOf session disk contributions := by
  have same := firsts_of_repeats (placed_of_repeats repeats session disk)
  rw [placed, placed] at same
  rw [findingsOf, findingsOf, same]

theorem length_repeated_of_repeats (session : Session) (disk : Disk) :
    (repeated (placed session disk contributions)).length ≤
      (repeated (placed session disk longer)).length := by
  have placed := placed_of_repeats repeats session disk
  have total := length_firsts_add_repeated (Published.placed session disk contributions)
  have totalLonger := length_firsts_add_repeated (Published.placed session disk longer)
  rw [firsts_of_repeats placed] at totalLonger
  have grows := placed.sublist.length_le
  omega

end Contributions

end Published

end ScanMerge
