import ScanMerge.Proofs.Lifecycle
import ScanMerge.Statistics

/-!
The artifacts that a history registered. Facts are held by module; listing all of them sorts what
was registered by module and keeps the order of registration within each.
-/

set_option autoImplicit false

namespace ScanMerge

namespace Facts

variable {α : Type}

/-- Lists that ascend in their keys are told apart by the elements of a key. -/
theorem eq_of_filter_eq (keyOf : α → String) {left right : List α}
    (leftOrdered : left.Pairwise fun earlier later => keyOf earlier ≤ keyOf later)
    (rightOrdered : right.Pairwise fun earlier later => keyOf earlier ≤ keyOf later)
    (same : ∀ key, (left.filter fun value => keyOf value = key) =
      right.filter fun value => keyOf value = key) : left = right := by
  induction left generalizing right with
  | nil =>
    cases right with
    | nil => rfl
    | cons other others => simpa using same (keyOf other)
  | cons first rest ih =>
    have firstIn : first ∈ right := by
      have inside : first ∈ right.filter fun value => keyOf value = keyOf first := by
        rw [← same]
        simp
      exact (List.mem_filter.1 inside).1
    cases right with
    | nil => cases firstIn
    | cons other others =>
      have otherIn : other ∈ first :: rest := by
        have inside : other ∈ (first :: rest).filter fun value => keyOf value = keyOf other := by
          rw [same]
          simp
        exact (List.mem_filter.1 inside).1
      obtain ⟨least, ordered⟩ := List.pairwise_cons.1 leftOrdered
      obtain ⟨otherLeast, otherOrdered⟩ := List.pairwise_cons.1 rightOrdered
      have sameKey : keyOf first = keyOf other := by
        apply String.le_antisymm
        · rcases List.mem_cons.1 otherIn with rfl | member
          · exact String.le_refl _
          · exact least _ member
        · rcases List.mem_cons.1 firstIn with rfl | member
          · exact String.le_refl _
          · exact otherLeast _ member
      have heads := same (keyOf first)
      rw [List.filter_cons_of_pos (by simp), List.filter_cons_of_pos (by simp [sameKey])] at heads
      obtain rfl := (List.cons.inj heads).1
      rw [ih ordered otherOrdered]
      intro key
      have all := same key
      by_cases own : keyOf first = key
      · rw [List.filter_cons_of_pos (by simpa using own),
          List.filter_cons_of_pos (by simpa using own)] at all
        exact (List.cons.inj all).2
      · rwa [List.filter_cons_of_neg (by simpa using own),
          List.filter_cons_of_neg (by simpa using own)] at all

section Gathers

variable (keyOf : α → String)

/-- The facts of each module are those of a list that have its key, in the order of the list. -/
def Gathers (facts : Facts α) (list : List α) : Prop :=
  ∀ moduleKey, facts.of moduleKey = list.filter fun fact => keyOf fact = moduleKey

theorem gathers_empty : Gathers keyOf (.empty : Facts α) [] := by
  intro moduleKey
  rfl

variable {keyOf} {facts : Facts α} {list : List α} (gathers : facts.Gathers keyOf list)

include gathers

theorem Gathers.push (fact : α) :
    (facts.push (keyOf fact) fact).Gathers keyOf (list ++ [fact]) := by
  intro moduleKey
  rw [List.filter_append]
  by_cases own : moduleKey = keyOf fact
  · rw [own, of_push_self, gathers (keyOf fact)]
    simp
  · rw [of_push_of_ne facts own, gathers moduleKey]
    simp [Ne.symm own]

theorem Gathers.key {entry : String × List α} (member : entry ∈ facts.entries) :
    ∀ fact ∈ entry.2, keyOf fact = entry.1 := by
  obtain ⟨moduleKey, values⟩ := entry
  have found : facts.of moduleKey = values := by
    rw [of, KeyMap.get?, KeyMap.lookup_of_mem facts.ordered member, Option.getD_some]
  intro fact inside
  rw [← found, gathers moduleKey, List.mem_filter] at inside
  simpa using inside.2

theorem Gathers.all_ordered :
    facts.all.Pairwise fun earlier later => keyOf earlier ≤ keyOf later := by
  rw [all, KeyMap.values, List.pairwise_flatten, List.pairwise_map]
  constructor
  · intro values member
    obtain ⟨entry, inside, rfl⟩ := List.mem_map.1 member
    apply List.pairwise_of_forall_mem_list
    intro earlier first later second
    have same := (gathers.key inside earlier first).trans (gathers.key inside later second).symm
    exact same ▸ String.le_refl _
  · refine facts.ordered.imp_of_mem ?_
    intro earlier later first second less fact inside other otherInside
    rw [gathers.key first fact inside, gathers.key second other otherInside]
    exact String.not_lt.1 fun greater => String.lt_irrefl _ (String.lt_trans less greater)

theorem Gathers.filter_all (moduleKey : String) :
    (facts.all.filter fun fact => keyOf fact = moduleKey) = facts.of moduleKey := by
  have own := fun (entry : String × List α) (member : entry ∈ facts.entries) => gathers.key member
  rw [all, KeyMap.values, of, KeyMap.get?]
  have ordered := facts.ordered
  generalize facts.entries = entries at own ordered
  induction entries with
  | nil => rfl
  | cons head rest ih =>
    obtain ⟨below, ordered⟩ := List.pairwise_cons.1 ordered
    have ownHead := own head List.mem_cons_self
    have others := ih (fun entry member => own entry (List.mem_cons_of_mem _ member)) ordered
    rw [List.map_cons, List.flatten_cons, List.filter_append, others, List.lookup_cons]
    by_cases first : moduleKey = head.1
    · subst first
      rw [KeyMap.lookup_eq_none_of_below below, beq_self_eq_true, Option.getD_none,
        List.append_nil, Option.getD_some, List.filter_eq_self]
      intro fact inside
      simp [ownHead fact inside]
    · have different : (moduleKey == head.1) = false := by simpa using first
      have none : (head.2.filter fun fact => keyOf fact = moduleKey) = [] := by
        rw [List.filter_eq_nil_iff]
        intro fact inside
        simp [ownHead fact inside, Ne.symm first]
      rw [none, different, List.nil_append]

theorem Gathers.filter_eq (moduleKey : String) :
    (facts.all.filter fun fact => keyOf fact = moduleKey) =
      list.filter fun fact => keyOf fact = moduleKey :=
  (gathers.filter_all moduleKey).trans (gathers moduleKey)

/-- Sorting by module keeps the order within each module. -/
theorem Gathers.all_eq :
    facts.all = list.mergeSort fun earlier later => keyOf earlier ≤ keyOf later := by
  have transitive : ∀ first second third : α, decide (keyOf first ≤ keyOf second) = true →
      decide (keyOf second ≤ keyOf third) = true → decide (keyOf first ≤ keyOf third) = true := by
    intro first second third
    simpa using String.le_trans
  have total : ∀ first second : α,
      (decide (keyOf first ≤ keyOf second) || decide (keyOf second ≤ keyOf first)) = true := by
    intro first second
    simpa using String.le_total (keyOf first) (keyOf second)
  have ordered := List.pairwise_mergeSort transitive total list
  apply eq_of_filter_eq keyOf gathers.all_ordered (by simpa using ordered)
  intro moduleKey
  rw [gathers.filter_eq]
  symm
  apply Statistics.filter_mergeSort transitive total
  intro earlier later firstKey secondKey
  simp only [decide_eq_true_eq] at firstKey secondKey ⊢
  have same := firstKey.trans secondKey.symm
  exact same ▸ String.le_refl _

end Gathers

end Facts

/-- The artifact that a registration brings to a session that accepts it. -/
def Session.artifact? (session : Session) : Registration → Option Artifact
  | .artifact moduleKey kind path =>
    (session.modules.get? moduleKey).map fun module => ⟨moduleKey, kind, module.root.join path⟩
  | _ => none

def Step.artifact? (step : Step) : Option Artifact :=
  match step.call, step.answer with
  | .register registration, .registered (.ok _) => step.before.session.artifact? registration
  | _, _ => none

/-- The artifacts that the steps of a history registered, in their order. -/
def registeredArtifacts (history : List Step) : List Artifact :=
  history.filterMap Step.artifact?

theorem Session.gathers_register {session after : Session} {disk : Disk}
    {registration : Registration} {answer : Registration.Answer} {list : List Artifact}
    (gathers : session.artifacts.Gathers Artifact.moduleKey list)
    (accepted : session.register disk registration = .ok (answer, after)) :
    after.artifacts.Gathers Artifact.moduleKey
      (list ++ (session.artifact? registration).toList) := by
  have registers := session.registers disk registration
  rw [accepted] at registers
  cases registers with
  | artifact collecting known kind path =>
    simp only [Session.artifact?, known, Option.map_some, Option.toList_some]
    exact gathers.push ⟨_, kind, _⟩
  | module | unreadable | file | method | telemetry | document =>
    simpa [Session.artifact?, Session.warn] using gathers

namespace Aggregation

theorem gathers_perform {aggregation : Aggregation} {list : List Artifact}
    (gathers : aggregation.session.artifacts.Gathers Artifact.moduleKey list) (disk : Disk)
    (call : Call) :
    (aggregation.perform disk call).2.session.artifacts.Gathers Artifact.moduleKey
      (list ++ (Step.artifact? ⟨aggregation, disk, call, (aggregation.perform disk call).1,
        (aggregation.perform disk call).2⟩).toList) := by
  have becomes := aggregation.perform_becomes disk call
  cases call with
  | register registration =>
    simp only [perform]
    cases accepted : aggregation.session.register disk registration with
    | ok outcome => exact Session.gathers_register gathers accepted
    | error error => simpa [Step.artifact?] using gathers
  | beginDraining | drain | result | phase =>
    simp only [Step.artifact?, Option.toList_none, List.append_nil]
    generalize (aggregation.perform disk _).2 = after at becomes ⊢
    cases becomes <;> exact gathers

/-- The artifacts of a run are those that its history registered. -/
theorem gathers_run (settings : Settings) (registry : Registry) (calls : List (Disk × Call)) :
    ((start settings registry).run calls).session.artifacts.Gathers Artifact.moduleKey
      (registeredArtifacts ((start settings registry).history calls)) := by
  have next (past : List Step) (step : Step) (genuine : step.Genuine)
      (gathers : step.before.session.artifacts.Gathers Artifact.moduleKey
        (registeredArtifacts past)) :
      step.after.session.artifacts.Gathers Artifact.moduleKey
        (registeredArtifacts (past ++ [step])) := by
    have kept := gathers_perform gathers step.disk step.call
    rw [genuine.performed] at kept
    rwa [registeredArtifacts, filterMap_snoc]
  have empty : (start settings registry).session.artifacts.Gathers Artifact.moduleKey [] :=
    Facts.gathers_empty Artifact.moduleKey
  exact history_keeps (P := fun past aggregation =>
    aggregation.session.artifacts.Gathers Artifact.moduleKey (registeredArtifacts past)) next
      (coherent_start settings registry) [] empty calls

/-- Listing them sorts them by module. -/
theorem artifacts_run (settings : Settings) (registry : Registry) (calls : List (Disk × Call)) :
    ((start settings registry).run calls).session.artifacts.all =
      (registeredArtifacts ((start settings registry).history calls)).mergeSort
        fun earlier later => earlier.moduleKey ≤ later.moduleKey :=
  (gathers_run settings registry calls).all_eq

end Aggregation

end ScanMerge
