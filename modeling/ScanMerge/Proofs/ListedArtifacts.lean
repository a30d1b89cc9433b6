import ScanMerge.Proofs.AcceptedRegistrations
import ScanMerge.Proofs.FactSummaries
import ScanMerge.Proofs.RegisteredArtifacts
import ScanMerge.Proofs.StableSorting
import Mathlib.Algebra.GroupWithZero.Nat
import Mathlib.Data.List.Induction
import Mathlib.Data.List.TakeWhile
import Mathlib.Data.String.Basic

/-!
The order in which artifacts are listed. A listing is the stable sort of registrations by module:
each artifact is there as often as it was registered, and what a module registers neither moves the
artifacts of another nor depends on when the other registers its own.
-/

set_option autoImplicit false

namespace ScanMerge

namespace Facts

/-! ### Listing facts -/

variable {α : Type} {keyOf : α → String}

/-- All facts are those of a list, sorted by key. Those of a key are in the order of the list. -/
structure ListsStably (keyOf : α → String) (facts : Facts α) (list : List α) : Prop where
  all_eq : facts.all = list.mergeSort fun earlier later => keyOf earlier ≤ keyOf later
  sorts : SortedBy keyOf list facts.all
  length : facts.all.length = list.length
  size : facts.size = list.length
  /-- What is counted for each key adds up to the same number. -/
  total : (facts.values.map List.length).sum = list.length

section Gathers

variable {facts : Facts α} {list : List α} (gathers : facts.Gathers keyOf list)

include gathers

theorem Gathers.listsStably : facts.ListsStably keyOf list := by
  have perm : facts.all.Perm list := by
    rw [gathers.all_eq]
    exact List.mergeSort_perm _ _
  constructor
  case all_eq => exact gathers.all_eq
  case sorts => exact ⟨perm, gathers.all_ordered, gathers.filter_eq⟩
  case length => exact perm.length_eq
  case size => exact perm.length_eq
  case total =>
    rw [← List.length_flatten]
    exact perm.length_eq

/-- None of the facts behind those of a module is one of its own. -/
theorem Gathers.key_ne {moduleKey : String} {below above : List α}
    (all : facts.all = below ++ (facts.of moduleKey ++ above)) :
    ∀ fact ∈ above, keyOf fact ≠ moduleKey := by
  have own : ∀ fact ∈ facts.of moduleKey, decide (keyOf fact = moduleKey) = true := by
    intro fact member
    rw [gathers moduleKey] at member
    exact (List.mem_filter.mp member).2
  have counted : (facts.all.countP fun fact => keyOf fact = moduleKey) =
      (facts.of moduleKey).length := by
    rw [List.countP_eq_length_filter, gathers.filter_all]
  rw [all, List.countP_append, List.countP_append, List.countP_eq_length.mpr own] at counted
  have none : (above.countP fun fact => keyOf fact = moduleKey) = 0 := by omega
  intro fact member same
  exact List.countP_eq_zero.mp none fact member (by simpa using same)

/-- One fact more is listed behind those of its module and of lesser ones, and no other moves. -/
theorem Gathers.all_push (fact : α) :
    (facts.push (keyOf fact) fact).all =
      (facts.all.takeWhile fun other => keyOf other ≤ keyOf fact) ++
        fact :: facts.all.dropWhile fun other => keyOf other ≤ keyOf fact := by
  obtain ⟨below, above, all, updated⟩ := facts.exists_all_update (keyOf fact)
  have different := gathers.key_ne all
  rw [← List.append_assoc] at all
  have pushed : (facts.push (keyOf fact) fact).all =
      (below ++ facts.of (keyOf fact)) ++ fact :: above := by
    rw [Facts.push, updated, of]
    simp only [List.append_assoc, List.cons_append, List.nil_append]
  have ordered := (gathers.push fact).all_ordered
  rw [pushed] at ordered
  obtain ⟨-, later, across⟩ := List.pairwise_append.mp ordered
  have before : ∀ other ∈ below ++ facts.of (keyOf fact),
      decide (keyOf other ≤ keyOf fact) = true := by
    intro other member
    simpa using across other member fact List.mem_cons_self
  -- The facts of the module end where the new one is put, so what follows has greater keys.
  have behind : ∀ other ∈ above, ¬ decide (keyOf other ≤ keyOf fact) = true := by
    intro other member
    have greater := lt_of_le_of_ne (List.rel_of_pairwise_cons later member)
      (different other member).symm
    simpa using greater
  rw [pushed, all, List.takeWhile_append_of_pos before, List.dropWhile_append_of_pos before,
    List.takeWhile_eq_nil_iff.mpr fun bound => behind _ (List.get_mem _ _),
    List.dropWhile_eq_self_iff.mpr fun bound => behind _ (List.getElem_mem bound), List.append_nil]

/-- Facts of some modules are listed as though there were no others. -/
theorem Gathers.filter_all_chosen (chosen : String → Bool) {part : Facts α}
    (gathersPart : part.Gathers keyOf (list.filter fun fact => chosen (keyOf fact))) :
    (facts.all.filter fun fact => chosen (keyOf fact)) = part.all := by
  apply eq_of_filter_eq keyOf (gathers.all_ordered.filter _) gathersPart.all_ordered
  intro moduleKey
  rw [gathersPart.filter_eq, List.filter_comm, gathers.filter_eq, List.filter_comm]

/-- A listing tells apart what each module registered, and nothing more. -/
theorem Gathers.all_eq_iff {other : Facts α} {otherList : List α}
    (gathersOther : other.Gathers keyOf otherList) :
    facts.all = other.all ↔ ∀ moduleKey, (list.filter fun fact => keyOf fact = moduleKey) =
      otherList.filter fun fact => keyOf fact = moduleKey := by
  constructor
  · intro same moduleKey
    rw [← gathers.filter_eq, same, gathersOther.filter_eq]
  · intro same
    apply eq_of_filter_eq keyOf gathers.all_ordered gathersOther.all_ordered
    intro moduleKey
    rw [gathers.filter_eq, gathersOther.filter_eq, same]

end Gathers

end Facts

namespace Artifact

/-- The artifacts of registrations that are made one after the other. -/
def collected (registered : List Artifact) : Facts Artifact :=
  .ofPushes (registered.map fun artifact => (artifact.moduleKey, artifact))

theorem collected_append_singleton (registered : List Artifact) (artifact : Artifact) :
    collected (registered ++ [artifact]) =
      (collected registered).push artifact.moduleKey artifact := by
  rw [collected, List.map_append]
  exact Facts.ofPushes_append_singleton _ _

theorem gathers_collected (registered : List Artifact) :
    (collected registered).Gathers moduleKey registered := by
  induction registered using List.reverseRecOn with
  | nil => exact Facts.gathers_empty moduleKey
  | append_singleton registered artifact ih =>
    rw [collected_append_singleton]
    exact ih.push artifact

/-- Artifacts are listed as the stable sort of their registrations by module. Each registration puts
its artifact in one place and moves no other; the artifacts of some modules are in the order in
which they would be without the rest; and listings are equal when each module registered the same. A
run lists what its history registered, once for each registration that it accepted. -/
theorem listed_stably :
    (∀ registered, (collected registered).ListsStably moduleKey registered) ∧
    (∀ registered (artifact : Artifact),
      let listed := (collected registered).all
      (collected (registered ++ [artifact])).all =
        (listed.takeWhile fun other => other.moduleKey ≤ artifact.moduleKey) ++
          artifact :: listed.dropWhile fun other => other.moduleKey ≤ artifact.moduleKey) ∧
    (∀ registered (chosen : String → Bool),
      ((collected registered).all.filter fun artifact => chosen artifact.moduleKey) =
        (collected (registered.filter fun artifact => chosen artifact.moduleKey)).all) ∧
    (∀ left right, (collected left).all = (collected right).all ↔
      ∀ key, (left.filter fun artifact => artifact.moduleKey = key) =
        right.filter fun artifact => artifact.moduleKey = key) ∧
    ∀ settings registry calls,
      let aggregation := Aggregation.start settings registry
      let artifacts := (aggregation.run calls).session.artifacts
      let history := aggregation.history calls
      artifacts.ListsStably moduleKey (registeredArtifacts history) ∧
        artifacts.size = (acceptedRegistrations history).countP Registration.isArtifact := by
  refine ⟨?each, ?next, ?chosen, ?same, ?run⟩
  case each => exact fun registered => (gathers_collected registered).listsStably
  case next =>
    intro registered artifact
    rw [collected_append_singleton]
    exact (gathers_collected registered).all_push artifact
  case chosen =>
    intro registered chosen
    exact (gathers_collected registered).filter_all_chosen chosen (gathers_collected _)
  case same => exact fun left right => (gathers_collected left).all_eq_iff (gathers_collected right)
  case run =>
    intro settings registry calls
    exact ⟨(Aggregation.gathers_run settings registry calls).listsStably,
      (Aggregation.run_collects settings registry calls).artifacts⟩

example :
    (collected [⟨"b", .roslyn, ⟨[0x62]⟩⟩, ⟨"a", .protobuf, ⟨[0x70]⟩⟩,
        ⟨"a", .telemetryJson, ⟨[0x6A]⟩⟩]).all =
      [⟨"a", .protobuf, ⟨[0x70]⟩⟩, ⟨"a", .telemetryJson, ⟨[0x6A]⟩⟩, ⟨"b", .roslyn, ⟨[0x62]⟩⟩] := by
  decide

end Artifact

end ScanMerge
