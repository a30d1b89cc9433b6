import ScanMerge.Json.Fields

/-!
Members of objects in normal form. Normal form orders the members of an object by name and keeps the
last of each name, so a reader that asks for members by name, or for all of them as a map, finds
what was written.
-/

set_option autoImplicit false

namespace ScanMerge

namespace KeyMap

variable {α : Type}

theorem lookup_reverse {entries : List (String × α)} (ordered : entries.Pairwise (·.1 < ·.1))
    (key : String) : entries.reverse.lookup key = entries.lookup key := by
  induction entries with
  | nil => rfl
  | cons entry rest ih =>
    obtain ⟨present, value⟩ := entry
    obtain ⟨below, ordered⟩ := List.pairwise_cons.mp ordered
    rw [List.reverse_cons, List.lookup_append, ih ordered]
    by_cases same : key = present
    · subst same
      rw [lookup_eq_none_of_below below, Option.none_or, List.lookup_cons_self,
        List.lookup_cons_self]
    · have other : (key == present) = false := beq_eq_false_iff_ne.mpr same
      simp only [List.lookup_cons, other, List.lookup_nil, Option.or_none]

/-- Of equal keys the last one counts. -/
theorem get?_ofList (entries : List (String × α)) (key : String) :
    (ofList entries).get? key = entries.reverse.lookup key := by
  -- For the induction the entries are put into any map; what is in it counts last.
  have further (start : KeyMap α) :
      (entries.foldl (fun map entry => map.insert entry.1 entry.2) start).get? key =
        (entries.reverse.lookup key).or (start.get? key) := by
    induction entries generalizing start with
    | nil => rfl
    | cons entry rest ih =>
      obtain ⟨present, value⟩ := entry
      rw [List.foldl_cons, ih, List.reverse_cons, List.lookup_append, Option.or_assoc]
      congr 1
      by_cases same : key = present
      · subst same
        simp only [insert, get?_update_self, List.lookup_cons_self, Option.some_or]
      · have other : (key == present) = false := beq_eq_false_iff_ne.mpr same
        simp only [insert, get?_update_of_ne _ same, List.lookup_cons, other, List.lookup_nil,
          Option.none_or]
  rw [ofList, further, get?_empty, Option.or_none]

@[simp] theorem ofList_entries (map : KeyMap α) : ofList map.entries = map :=
  ext_get? fun key => (get?_ofList map.entries key).trans (lookup_reverse map.ordered key)

/-- The map with every value replaced. -/
def mapValues {β : Type} (change : α → β) (map : KeyMap α) : KeyMap β :=
  ⟨map.entries.map fun entry => (entry.1, change entry.2),
    List.pairwise_map.mpr map.ordered⟩

end KeyMap

namespace Json

/-! ### Normal form -/

theorem normal_array (items : List Json) : normal (.array items) = .array (items.map normal) := by
  rw [normal]
  congr 1
  induction items with
  | nil => rfl
  | cons item rest ih => rw [normalItems, ih, List.map_cons]

theorem insertMember_eq (name : String) (value : Json) (members : List (String × Json)) :
    insertMember name value members = KeyMap.updateEntries name (fun _ => value) members := by
  induction members with
  | nil => rfl
  | cons member rest ih =>
    obtain ⟨present, other⟩ := member
    rw [insertMember, KeyMap.updateEntries, ih]
    split
    · rfl
    · split
      · next same => rw [same]
      · rfl

/-- The members of an object in normal form make up a map. -/
theorem normal_object (members : List (String × Json)) :
    normal (.object members) =
      .object (KeyMap.ofList (members.map fun member => (member.1, normal member.2))).entries := by
  rw [normal]
  congr 1
  have further (start : KeyMap Json) : normalMembers start.entries members =
      ((members.map fun member => (member.1, normal member.2)).foldl
        (fun map entry => map.insert entry.1 entry.2) start).entries := by
    induction members generalizing start with
    | nil => rfl
    | cons member rest ih =>
      rw [normalMembers, insertMember_eq, List.map_cons, List.foldl_cons, ← ih]
      rfl
  exact further KeyMap.empty

theorem lookup_map_normal (members : List (String × Json)) (name : String) :
    (members.map fun member => (member.1, normal member.2)).lookup name =
      (members.lookup name).map normal := by
  induction members with
  | nil => rfl
  | cons member rest ih =>
    rw [List.map_cons, List.lookup_cons, List.lookup_cons, ih]
    split <;> rfl

theorem get?_normal (members : List (String × Json)) (name : String) :
    (normal (.object members)).get? name = (members.reverse.lookup name).map normal := by
  rw [normal_object, get?, KeyMap.lookup_reverse (KeyMap.ordered _)]
  change (KeyMap.ofList _).get? name = _
  rw [KeyMap.get?_ofList, ← List.map_reverse, lookup_map_normal]

/-! ### Reading -/

@[simp] theorem string?_normal_string (text : String) :
    (normal (.string text)).string? = some text := rfl

@[simp] theorem truth?_normal_bool (value : Bool) : truth? (normal (.bool value)) = some value :=
  rfl

@[simp] theorem double?_normal_double (value : Decimal.Double) :
    double? (normal (.double value)) = some value := rfl

@[simp] theorem natural?_normal_natural (value : Nat) :
    (normal (natural value)).natural? = some value := rfl

@[simp] theorem word?_normal_natural (value : UInt32) :
    word? (normal (natural value.toNat)) = some value := by
  simp [word?, UInt32.toNat_lt_size]

section Reading

variable {α : Type} {read : Json → Option α} {members : List (String × Json)} {name : String}

theorem field?_normal :
    (normal (.object members)).field? name read =
      (members.reverse.lookup name).bind fun value => read (normal value) := by
  rw [field?, get?_normal, Option.bind_map]
  rfl

theorem optionalField?_normal (write : α → Json) {value : Option α}
    (found : members.reverse.lookup name = value.map write)
    (reads : ∀ inner ∈ value, read (normal (write inner)) = some inner)
    (notNull : ∀ inner, normal (write inner) ≠ .null) :
    (normal (.object members)).optionalField? name read = some value := by
  rw [optionalField?, present?, get?_normal, found]
  cases value with
  | none => rfl
  | some inner =>
    have reads := reads inner rfl
    have notNull := notNull inner
    simp only [Option.map_some]
    split
    · next shape =>
      split at shape
      · next null => exact absurd (Option.some.inj null) notNull
      · cases shape
    · next found shape =>
      split at shape
      · cases shape
      · cases shape
        rw [reads, Option.map_some]

theorem items?_normal {write : α → Json} {values : List α}
    (reads : ∀ value ∈ values, read (normal (write value)) = some value) :
    items? read (normal (.array (values.map write))) = some values := by
  rw [normal_array, items?, List.map_map]
  induction values with
  | nil => rfl
  | cons value rest ih =>
    rw [List.map_cons, List.mapM_cons, Function.comp_apply, reads value List.mem_cons_self,
      ih fun other member => reads other (List.mem_cons_of_mem _ member)]
    rfl

theorem map?_normal {write : α → Json} {map : KeyMap α}
    (reads : ∀ value ∈ map.values, read (normal (write value)) = some value) :
    map? read (normal (.object (map.entries.map fun entry => (entry.1, write entry.2)))) =
      some map := by
  have written : (KeyMap.ofList ((map.entries.map fun entry => (entry.1, write entry.2)).map
      fun member => (member.1, normal member.2))).entries =
      map.entries.map fun entry => (entry.1, normal (write entry.2)) := by
    rw [List.map_map]
    exact congrArg KeyMap.entries (KeyMap.ofList_entries (map.mapValues (normal ∘ write)))
  have all (entries : List (String × α))
      (reads : ∀ entry ∈ entries, read (normal (write entry.2)) = some entry.2) :
      (entries.map fun entry => (entry.1, normal (write entry.2))).mapM
        (fun member => (read member.2).map fun value => (member.1, value)) = some entries := by
    induction entries with
    | nil => rfl
    | cons entry rest ih =>
      rw [List.map_cons, List.mapM_cons, reads entry List.mem_cons_self,
        ih fun other member => reads other (List.mem_cons_of_mem _ member)]
      rfl
  rw [normal_object, written, map?,
    all map.entries fun entry member => reads entry.2 (List.mem_map_of_mem member)]
  exact congrArg some (KeyMap.ofList_entries map)

end Reading

/-! ### Members that may be left out -/

theorem lookup_optionalMember {α : Type} (write : α → Json) (value : Option α)
    (name key : String) :
    (optionalMember name write value).reverse.lookup key =
      if key = name then value.map write else none := by
  cases value with
  | none => exact (ite_self none).symm
  | some inner =>
    by_cases same : key = name
    · subst same
      simp [optionalMember]
    · have other : (key == name) = false := beq_eq_false_iff_ne.mpr same
      simp [optionalMember, List.lookup_cons, other, same]

end Json

end ScanMerge
