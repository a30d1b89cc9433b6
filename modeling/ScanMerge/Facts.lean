import ScanMerge.KeyMap

/-!
Facts that modules register, each under the key of its module and in the order of registration.
-/

set_option autoImplicit false

namespace ScanMerge

/-- The facts of one sort, by module. -/
abbrev Facts (α : Type) : Type :=
  KeyMap (List α)

namespace Facts

variable {α : Type}

def push (facts : Facts α) (moduleKey : String) (fact : α) : Facts α :=
  facts.update moduleKey fun present => present.getD [] ++ [fact]

/-- All facts, by module and then in the order of registration. -/
def all (facts : Facts α) : List α :=
  facts.values.flatten

def size (facts : Facts α) : Nat :=
  facts.all.length

def of (facts : Facts α) (moduleKey : String) : List α :=
  (facts.get? moduleKey).getD []

@[simp] theorem of_empty (moduleKey : String) : of (.empty : Facts α) moduleKey = [] := rfl

@[simp] theorem of_push_self (facts : Facts α) (moduleKey : String) (fact : α) :
    (facts.push moduleKey fact).of moduleKey = facts.of moduleKey ++ [fact] := by
  simp [of, push]

theorem of_push_of_ne (facts : Facts α) {moduleKey other : String} (different : other ≠ moduleKey)
    (fact : α) : (facts.push moduleKey fact).of other = facts.of other := by
  rw [of, push, KeyMap.get?_update_of_ne facts different, of]

theorem mem_of_push {facts : Facts α} {moduleKey other : String} {fact value : α} :
    value ∈ (facts.push moduleKey fact).of other ↔
      (other = moduleKey ∧ value = fact) ∨ value ∈ facts.of other := by
  by_cases own : other = moduleKey
  · subst own
    simp [or_comm]
  · simp [of_push_of_ne facts own, own]

/-- The facts of a module stand together among all, and changing them leaves the others. -/
theorem exists_all_update (facts : Facts α) (moduleKey : String) :
    ∃ below above, facts.all = below ++ (facts.of moduleKey ++ above) ∧
      ∀ change : Option (List α) → List α,
        all (KeyMap.update facts moduleKey change) =
          below ++ (change (KeyMap.get? facts moduleKey) ++ above) := by
  obtain ⟨entries, ordered⟩ := facts
  simp only [all, of, KeyMap.values, KeyMap.get?, KeyMap.entries_update]
  induction entries with
  | nil => exact ⟨[], [], rfl, fun change => by simp [KeyMap.updateEntries]⟩
  | cons head rest ih =>
    obtain ⟨present, values⟩ := head
    obtain ⟨least, restOrdered⟩ := List.pairwise_cons.mp ordered
    by_cases before : moduleKey < present
    · have absent : ((present, values) :: rest).lookup moduleKey = none := by
        apply KeyMap.lookup_eq_none_of_below
        intro entry member
        rcases List.mem_cons.mp member with rfl | member
        · exact before
        · exact String.lt_trans before (least entry member)
      refine ⟨[], (((present, values) :: rest).map Prod.snd).flatten, ?_, ?_⟩
      · simp [absent]
      · intro change
        simp [KeyMap.updateEntries, before, absent]
    · by_cases own : moduleKey = present
      · subst own
        refine ⟨[], (rest.map Prod.snd).flatten, ?_, ?_⟩
        · simp
        · intro change
          simp [KeyMap.updateEntries]
      · obtain ⟨below, above, all, updated⟩ := ih restOrdered
        have other : (moduleKey == present) = false := by simpa using own
        refine ⟨values ++ below, above, ?_, ?_⟩
        · simp [List.lookup_cons, other, all]
        · intro change
          simp [KeyMap.updateEntries, before, own, List.lookup_cons, other, updated change]

theorem mem_all {facts : Facts α} {fact : α} :
    fact ∈ facts.all ↔ ∃ moduleKey, fact ∈ facts.of moduleKey := by
  constructor
  · intro member
    obtain ⟨values, inside, member⟩ := List.mem_flatten.mp member
    obtain ⟨⟨moduleKey, _⟩, entry, rfl⟩ := List.mem_map.mp inside
    refine ⟨moduleKey, ?_⟩
    rw [of, KeyMap.get?, KeyMap.lookup_of_mem facts.ordered entry]
    exact member
  · rintro ⟨moduleKey, member⟩
    obtain ⟨below, above, all, -⟩ := facts.exists_all_update moduleKey
    rw [all]
    exact List.mem_append_right below (List.mem_append_left above member)

theorem size_push (facts : Facts α) (moduleKey : String) (fact : α) :
    (facts.push moduleKey fact).size = facts.size + 1 := by
  obtain ⟨below, above, all, updated⟩ := facts.exists_all_update moduleKey
  rw [size, size, push, updated, all]
  simp only [List.length_append, List.length_singleton, of]
  omega

/-- Facts of different modules can be pushed in any order. -/
theorem push_comm (facts : Facts α) {moduleKey other : String} (different : moduleKey ≠ other)
    (fact otherFact : α) :
    (facts.push moduleKey fact).push other otherFact =
      (facts.push other otherFact).push moduleKey fact :=
  KeyMap.update_comm facts different _ _

end Facts

end ScanMerge
