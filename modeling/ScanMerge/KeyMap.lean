/-!
Maps from text keys, listed by key in code point order, and ascending lists of distinct texts.
-/

set_option autoImplicit false

namespace ScanMerge

namespace KeyMap

variable {α : Type}

/-- The entries with the value under `key` replaced by what `change` makes of it. -/
def updateEntries (key : String) (change : Option α → α) : List (String × α) → List (String × α)
  | [] => [(key, change none)]
  | (present, value) :: rest =>
    if key < present then
      (key, change none) :: (present, value) :: rest
    else if key = present then
      (present, change (some value)) :: rest
    else
      (present, value) :: updateEntries key change rest

theorem key_mem_updateEntries {key : String} {change : Option α → α} {entries : List (String × α)}
    {entry : String × α} (h : entry ∈ updateEntries key change entries) :
    entry.1 = key ∨ ∃ present ∈ entries, present.1 = entry.1 := by
  induction entries with
  | nil => simp_all [updateEntries]
  | cons head rest ih =>
    obtain ⟨present, value⟩ := head
    simp only [updateEntries] at h
    split at h
    · grind
    · split at h
      · grind
      · rcases List.mem_cons.1 h with rfl | h
        · exact .inr ⟨_, List.mem_cons_self, rfl⟩
        · rcases ih h with h | ⟨other, member, same⟩
          · exact .inl h
          · exact .inr ⟨other, List.mem_cons_of_mem _ member, same⟩

theorem ordered_updateEntries (key : String) (change : Option α → α) {entries : List (String × α)}
    (h : entries.Pairwise (·.1 < ·.1)) :
    (updateEntries key change entries).Pairwise (·.1 < ·.1) := by
  induction entries with
  | nil => simp [updateEntries]
  | cons head rest ih =>
    obtain ⟨present, value⟩ := head
    obtain ⟨below, ordered⟩ := List.pairwise_cons.1 h
    simp only [updateEntries]
    split
    · next less =>
      refine List.pairwise_cons.2 ⟨fun entry member => ?_, h⟩
      rcases List.mem_cons.1 member with rfl | member
      · exact less
      · exact String.lt_trans less (below _ member)
    · next notLess =>
      split
      · exact List.pairwise_cons.2 ⟨below, ordered⟩
      · next different =>
        refine List.pairwise_cons.2 ⟨fun entry member => ?_, ih ordered⟩
        rcases key_mem_updateEntries member with same | ⟨other, member, same⟩
        · rw [same]
          refine Classical.byContradiction fun notGreater => different ?_
          exact String.le_antisymm (String.not_lt.1 notGreater) (String.not_lt.1 notLess)
        · exact same ▸ below other member

theorem lookup_eq_none_of_below {key : String} {entries : List (String × α)}
    (below : ∀ entry ∈ entries, key < entry.1) : entries.lookup key = none := by
  rw [List.lookup_eq_none_iff]
  intro entry member
  have less := below entry member
  rw [bne_iff_ne]
  intro same
  exact String.lt_irrefl _ (same ▸ less)

theorem lookup_of_mem {key : String} {value : α} {entries : List (String × α)}
    (ordered : entries.Pairwise (·.1 < ·.1)) (member : (key, value) ∈ entries) :
    entries.lookup key = some value := by
  induction entries with
  | nil => cases member
  | cons head rest ih =>
    obtain ⟨below, ordered⟩ := List.pairwise_cons.1 ordered
    rcases List.mem_cons.1 member with rfl | member
    · exact List.lookup_cons_self
    · have different : (key == head.1) = false := by
        rw [beq_eq_false_iff_ne]
        intro same
        exact String.lt_irrefl _ (same ▸ below _ member)
      rw [List.lookup_cons, different]
      exact ih ordered member

theorem lookup_updateEntries_self (key : String) (change : Option α → α)
    {entries : List (String × α)} (h : entries.Pairwise (·.1 < ·.1)) :
    (updateEntries key change entries).lookup key = some (change (entries.lookup key)) := by
  induction entries with
  | nil => simp [updateEntries]
  | cons head rest ih =>
    obtain ⟨present, value⟩ := head
    obtain ⟨below, ordered⟩ := List.pairwise_cons.1 h
    simp only [updateEntries]
    split
    · next less =>
      have absent : ((present, value) :: rest).lookup key = none := by
        apply lookup_eq_none_of_below
        intro entry member
        rcases List.mem_cons.1 member with rfl | member
        · exact less
        · exact String.lt_trans less (below _ member)
      rw [absent]
      simp
    · split
      · next same => simp [same]
      · next different =>
        have other : (key == present) = false := by simpa using different
        rw [List.lookup_cons, other, List.lookup_cons, other]
        exact ih ordered

theorem lookup_updateEntries_of_ne {key other : String} (different : other ≠ key)
    (change : Option α → α) (entries : List (String × α)) :
    (updateEntries key change entries).lookup other = entries.lookup other := by
  have first : (other == key) = false := by simpa using different
  induction entries with
  | nil => simp [updateEntries, List.lookup_cons, first]
  | cons head rest ih =>
    obtain ⟨present, value⟩ := head
    simp only [updateEntries]
    split
    · rw [List.lookup_cons, first]
    · split
      · next same => rw [List.lookup_cons, List.lookup_cons, ← same, first]
      · rw [List.lookup_cons, List.lookup_cons, ih]

/-- Ordered lists of entries are told apart by looking up a key. -/
theorem entries_eq_of_lookup {left right : List (String × α)}
    (leftOrdered : left.Pairwise (·.1 < ·.1)) (rightOrdered : right.Pairwise (·.1 < ·.1))
    (same : ∀ key, left.lookup key = right.lookup key) : left = right := by
  induction left generalizing right with
  | nil =>
    cases right with
    | nil => rfl
    | cons head rest =>
      obtain ⟨key, value⟩ := head
      simpa using same key
  | cons head rest ih =>
    obtain ⟨key, value⟩ := head
    obtain ⟨below, ordered⟩ := List.pairwise_cons.1 leftOrdered
    cases right with
    | nil => simpa using same key
    | cons other others =>
      obtain ⟨otherKey, otherValue⟩ := other
      obtain ⟨otherBelow, otherOrdered⟩ := List.pairwise_cons.1 rightOrdered
      have keyFound := same key
      have otherFound := same otherKey
      rw [List.lookup_cons_self] at keyFound otherFound
      have notLess : ¬ key < otherKey := by
        intro less
        have absent : ((otherKey, otherValue) :: others).lookup key = none := by
          apply lookup_eq_none_of_below
          intro entry member
          rcases List.mem_cons.1 member with rfl | member
          · exact less
          · exact String.lt_trans less (otherBelow _ member)
        rw [absent] at keyFound
        cases keyFound
      have notGreater : ¬ otherKey < key := by
        intro less
        have absent : ((key, value) :: rest).lookup otherKey = none := by
          apply lookup_eq_none_of_below
          intro entry member
          rcases List.mem_cons.1 member with rfl | member
          · exact less
          · exact String.lt_trans less (below _ member)
        rw [absent] at otherFound
        cases otherFound
      obtain rfl : key = otherKey :=
        String.le_antisymm (String.not_lt.1 notGreater) (String.not_lt.1 notLess)
      rw [List.lookup_cons_self] at keyFound
      cases keyFound
      rw [ih ordered otherOrdered]
      intro wanted
      by_cases first : wanted = key
      · rw [first, lookup_eq_none_of_below below, lookup_eq_none_of_below otherBelow]
      · have different : (wanted == key) = false := by simpa using first
        simpa only [List.lookup_cons, different] using same wanted

end KeyMap

/-- A map from text keys. Every key occurs once and the keys ascend. -/
structure KeyMap (α : Type) where
  entries : List (String × α)
  ordered : entries.Pairwise (·.1 < ·.1)

namespace KeyMap

variable {α : Type}

instance [DecidableEq α] : DecidableEq (KeyMap α) := fun left right =>
  decidable_of_iff (left.entries = right.entries) (by cases left; cases right; simp)

def empty : KeyMap α :=
  ⟨[], .nil⟩

instance : Inhabited (KeyMap α) :=
  ⟨empty⟩

/-- The map with the value under `key` replaced by what `change` makes of it. -/
def update (map : KeyMap α) (key : String) (change : Option α → α) : KeyMap α :=
  ⟨updateEntries key change map.entries, ordered_updateEntries key change map.ordered⟩

def insert (map : KeyMap α) (key : String) (value : α) : KeyMap α :=
  map.update key fun _ => value

def get? (map : KeyMap α) (key : String) : Option α :=
  map.entries.lookup key

/-- The map of a list of entries; the last one of a key counts. -/
def ofList (entries : List (String × α)) : KeyMap α :=
  entries.foldl (fun map entry => map.insert entry.1 entry.2) empty

/-- The keys, ascending. -/
def keys (map : KeyMap α) : List String :=
  map.entries.map (·.1)

/-- The values, by key. -/
def values (map : KeyMap α) : List α :=
  map.entries.map (·.2)

@[simp] theorem entries_empty : (empty : KeyMap α).entries = [] := rfl

@[simp] theorem entries_update (map : KeyMap α) (key : String) (change : Option α → α) :
    (map.update key change).entries = updateEntries key change map.entries := rfl

@[simp] theorem get?_empty (key : String) : (empty : KeyMap α).get? key = none := rfl

@[simp] theorem get?_update_self (map : KeyMap α) (key : String) (change : Option α → α) :
    (map.update key change).get? key = some (change (map.get? key)) :=
  lookup_updateEntries_self key change map.ordered

theorem get?_update_of_ne (map : KeyMap α) {key other : String} (different : other ≠ key)
    (change : Option α → α) : (map.update key change).get? other = map.get? other :=
  lookup_updateEntries_of_ne different change map.entries

theorem ext_get? {left right : KeyMap α} (same : ∀ key, left.get? key = right.get? key) :
    left = right := by
  obtain ⟨leftEntries, leftOrdered⟩ := left
  obtain ⟨rightEntries, rightOrdered⟩ := right
  congr
  exact entries_eq_of_lookup leftOrdered rightOrdered same

theorem ascending_keys (map : KeyMap α) : map.keys.Pairwise (· < ·) := by
  rw [keys, List.pairwise_map]
  exact map.ordered

theorem nodup_keys (map : KeyMap α) : map.keys.Nodup := by
  refine map.ascending_keys.imp ?_
  intro earlier later less same
  exact String.lt_irrefl _ (same ▸ less)

theorem mem_keys {map : KeyMap α} {key : String} :
    key ∈ map.keys ↔ (map.get? key).isSome = true := by
  constructor
  · intro member
    obtain ⟨⟨_, value⟩, inside, rfl⟩ := List.mem_map.mp member
    rw [get?, lookup_of_mem map.ordered inside]
    rfl
  · intro present
    apply Classical.byContradiction
    intro absent
    have missing : map.entries.lookup key = none := by
      rw [List.lookup_eq_none_iff]
      intro entry inside
      rw [bne_iff_ne]
      intro same
      exact absent (List.mem_map.mpr ⟨entry, inside, same.symm⟩)
    rw [get?, missing] at present
    cases present

theorem mem_entries_iff {map : KeyMap α} {key : String} {value : α} :
    (key, value) ∈ map.entries ↔ map.get? key = some value := by
  refine ⟨lookup_of_mem map.ordered, fun found => ?_⟩
  obtain ⟨⟨_, present⟩, member, rfl⟩ :=
    List.mem_map.mp (mem_keys.mpr (by rw [found]; rfl) : key ∈ map.keys)
  have same := lookup_of_mem map.ordered member
  rw [← get?, found] at same
  rwa [Option.some.inj same]

/-- Updates of different keys commute. -/
theorem update_comm (map : KeyMap α) {key other : String} (different : key ≠ other)
    (change otherChange : Option α → α) :
    (map.update key change).update other otherChange =
      (map.update other otherChange).update key change := by
  apply ext_get?
  intro wanted
  by_cases first : wanted = key
  · subst wanted
    rw [get?_update_of_ne _ different, get?_update_self, get?_update_self,
      get?_update_of_ne _ different]
  · rw [get?_update_of_ne _ first]
    by_cases second : wanted = other
    · subst wanted
      rw [get?_update_self, get?_update_self, get?_update_of_ne _ first]
    · rw [get?_update_of_ne _ second, get?_update_of_ne _ second, get?_update_of_ne _ first]

end KeyMap

/-- An ascending list of distinct texts with one text more. -/
def insertText (text : String) : List String → List String
  | [] => [text]
  | present :: rest =>
    if text < present then text :: present :: rest
    else if text = present then present :: rest
    else present :: insertText text rest

/-- The distinct texts of a list, ascending. -/
def distinctTexts (texts : List String) : List String :=
  texts.foldl (fun present text => insertText text present) []

@[simp] theorem distinctTexts_nil : distinctTexts [] = [] := rfl

theorem mem_insertText {text other : String} {texts : List String} :
    other ∈ insertText text texts ↔ other = text ∨ other ∈ texts := by
  induction texts with
  | nil => simp [insertText]
  | cons present rest ih =>
    simp only [insertText]
    split
    · simp
    · split
      · next same => simp [same]
      · simp [ih, or_left_comm]

end ScanMerge
