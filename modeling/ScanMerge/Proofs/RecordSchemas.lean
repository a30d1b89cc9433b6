import ScanMerge.Rest
import Mathlib.Data.List.Nodup

/-!
Records that are read item by item, each item with a name and a source. A schema declares the names
and the place that each of them has in a record. Items with different names do not disturb one
another, so their order does not matter, and items with names that are not declared leave a record
as it is.
-/

set_option autoImplicit false

namespace ScanMerge

/-- A declared item of a type of records: its name, its place in a record, and what a source makes
of the value that is there. -/
structure Declaration (Name Source α : Type) where
  name : Name
  Value : Type
  get : α → Value
  put : α → Value → α
  Takes : (before : Value) → Source → (after : Value) → Prop

/-- What a type of records declares. No two items share a name or a place, and a record is the
values in its places. Other items may be required to make sense. -/
structure Schema (Name Source α : Type) where
  start : α
  declarations : List (Declaration Name Source α)
  Ignores : Name → Source → Prop
  distinct : (declarations.map (·.name)).Nodup
  get_put : ∀ declared ∈ declarations, ∀ record value,
    declared.get (declared.put record value) = value
  get_put_other : ∀ declared ∈ declarations, ∀ other ∈ declarations, other.name ≠ declared.name →
    ∀ record value, other.get (declared.put record value) = other.get record
  eq_of_get : ∀ record last, (∀ declared ∈ declarations, declared.get record = declared.get last) →
    record = last

variable {Name Source α : Type}

/-- Sources, one after the other, take one value to another. -/
inductive Declaration.Spells (declared : Declaration Name Source α) :
    List Source → declared.Value → declared.Value → Prop where
  | done (value : declared.Value) : declared.Spells [] value value
  | next {source : Source} {sources : List Source} {value between last : declared.Value}
      (takes : declared.Takes value source between)
      (others : declared.Spells sources between last) :
      declared.Spells (source :: sources) value last

theorem Declaration.Spells.one {declared : Declaration Name Source α} {source : Source}
    {value last : declared.Value} (takes : declared.Takes value source last) :
    declared.Spells [source] value last :=
  .next takes (.done last)

/-- The values of one declaration are made into those of another one. -/
theorem Declaration.Spells.map {β : Type} {declared : Declaration Name Source α}
    (other : Declaration Name Source β) (make : declared.Value → other.Value)
    (becomes : ∀ {before source after}, declared.Takes before source after →
      other.Takes (make before) source (make after))
    {sources : List Source} {value last : declared.Value}
    (spells : declared.Spells sources value last) :
    other.Spells sources (make value) (make last) := by
  induction spells with
  | done value => exact .done (make value)
  | next takes _ ih => exact .next (becomes takes) ih

namespace Schema

variable {schema : Schema Name Source α}

/-- A name is declared once. -/
theorem eq_of_name {declared other : Declaration Name Source α}
    (mem : declared ∈ schema.declarations) (mem' : other ∈ schema.declarations)
    (same : other.name = declared.name) : other = declared :=
  List.inj_on_of_nodup_map schema.distinct mem' mem same

/-- An item takes one record to the next. -/
inductive Takes (schema : Schema Name Source α) : α → Name → Source → α → Prop where
  | declared {declared : Declaration Name Source α} (mem : declared ∈ schema.declarations)
      {record : α} {source : Source} {value : declared.Value}
      (takes : declared.Takes (declared.get record) source value) :
      schema.Takes record declared.name source (declared.put record value)
  | other {name : Name} {source : Source}
      (apart : ∀ declared ∈ schema.declarations, name ≠ declared.name)
      (ignores : schema.Ignores name source) {record : α} : schema.Takes record name source record

theorem takes_declared_iff {declared : Declaration Name Source α}
    (mem : declared ∈ schema.declarations) {record next : α} {source : Source} :
    schema.Takes record declared.name source next ↔
      ∃ value, declared.Takes (declared.get record) source value ∧
        declared.put record value = next := by
  constructor
  · generalize named : declared.name = name
    rintro (⟨mem', takes⟩ | ⟨apart, -⟩)
    · obtain rfl := eq_of_name mem' mem named
      exact ⟨_, takes, rfl⟩
    · exact absurd named.symm (apart declared mem)
  · rintro ⟨value, takes, rfl⟩
    exact .declared mem takes

theorem takes_other_iff {name : Name}
    (apart : ∀ declared ∈ schema.declarations, name ≠ declared.name) {record next : α}
    {source : Source} :
    schema.Takes record name source next ↔ schema.Ignores name source ∧ record = next := by
  constructor
  · rintro (⟨mem, -⟩ | ⟨-, ignores⟩)
    · exact absurd rfl (apart _ mem)
    · exact ⟨ignores, rfl⟩
  · rintro ⟨ignores, rfl⟩
    exact .other apart ignores

end Schema

variable [DecidableEq Name]

def sourcesOf (name : Name) (items : List (Name × Source)) : List Source :=
  (items.filter (·.1 = name)).map (·.2)

theorem sourcesOf_cons_self (name : Name) (source : Source) (items : List (Name × Source)) :
    sourcesOf name ((name, source) :: items) = source :: sourcesOf name items := by
  simp [sourcesOf]

theorem sourcesOf_cons_of_ne {name other : Name} (apart : other ≠ name) (source : Source)
    (items : List (Name × Source)) :
    sourcesOf name ((other, source) :: items) = sourcesOf name items := by
  simp [sourcesOf, apart]

namespace Schema

variable {schema : Schema Name Source α}

/-- The items take one record to another: those with a declared name say the value in its place, and
the others make sense. How items with different names are ordered is left open. -/
structure Spells (schema : Schema Name Source α) (items : List (Name × Source))
    (record last : α) : Prop where
  declared : ∀ declared ∈ schema.declarations,
    declared.Spells (sourcesOf declared.name items) (declared.get record) (declared.get last)
  others : ∀ item ∈ items, (∀ declared ∈ schema.declarations, item.1 ≠ declared.name) →
    schema.Ignores item.1 item.2

/-- The first of the items takes the record to one from which the others go on. -/
theorem Spells.first {name : Name} {source : Source} {items : List (Name × Source)}
    {record last : α} (spells : schema.Spells ((name, source) :: items) record last) :
    ∃ next, schema.Takes record name source next ∧ schema.Spells items next last := by
  have others := fun item mem => spells.others item (List.mem_cons_of_mem _ mem)
  by_cases known : ∃ declared ∈ schema.declarations, name = declared.name
  · obtain ⟨declared, mem, rfl⟩ := known
    have own := spells.declared declared mem
    rw [sourcesOf_cons_self] at own
    generalize result : declared.get last = value at own
    cases own with
    | @next _ _ _ between _ takes more =>
      refine ⟨declared.put record between, .declared mem takes, fun other mem' => ?_, others⟩
      by_cases same : other.name = declared.name
      · obtain rfl := eq_of_name mem mem' same
        rw [schema.get_put other mem, result]
        exact more
      · have kept := spells.declared other mem'
        rw [sourcesOf_cons_of_ne (Ne.symm same)] at kept
        rwa [schema.get_put_other declared mem other mem' same]
  · have apart : ∀ declared ∈ schema.declarations, name ≠ declared.name :=
      fun declared mem same => known ⟨declared, mem, same⟩
    refine ⟨record, .other apart (spells.others _ List.mem_cons_self apart),
      fun declared mem => ?_, others⟩
    have kept := spells.declared declared mem
    rwa [sourcesOf_cons_of_ne (apart declared mem)] at kept

theorem Spells.nil (record : α) : schema.Spells [] record record :=
  ⟨fun declared _ => .done (declared.get record), nofun⟩

/-- An item may be put before others that go on from where it leads. -/
theorem Takes.spells {name : Name} {source : Source} {items : List (Name × Source)}
    {record next last : α} (takes : schema.Takes record name source next)
    (others : schema.Spells items next last) :
    schema.Spells ((name, source) :: items) record last := by
  cases takes with
  | @declared declared mem _ _ value takes =>
    constructor
    · intro other mem'
      have more := others.declared other mem'
      by_cases same : other.name = declared.name
      · obtain rfl := eq_of_name mem mem' same
        rw [schema.get_put other mem] at more
        rw [sourcesOf_cons_self]
        exact .next takes more
      · rw [schema.get_put_other declared mem other mem' same] at more
        rwa [sourcesOf_cons_of_ne (Ne.symm same)]
    · exact List.forall_mem_cons.mpr ⟨fun apart => absurd rfl (apart declared mem), others.others⟩
  | other apart ignores =>
    constructor
    · intro declared mem
      rw [sourcesOf_cons_of_ne (apart declared mem)]
      exact others.declared declared mem
    · exact List.forall_mem_cons.mpr ⟨fun _ => ignores, others.others⟩

/-- No items leave the record as it is. -/
theorem Spells.eq {record last : α} (spells : schema.Spells [] record last) : record = last := by
  refine schema.eq_of_get record last fun declared mem => ?_
  have own := spells.declared declared mem
  change declared.Spells [] _ _ at own
  generalize declared.get record = value, declared.get last = result at own
  cases own
  rfl

end Schema

end ScanMerge
